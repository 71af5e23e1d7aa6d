import HouseRules.Diff.Scan
import HouseRules.Files.Path
import HouseRules.History.Failure

/-! # Repositories

A repository reads its history by calling git. Each call is entered in a journal. Blobs that were
read are kept, the latest use first, up to a bound; a failed read is not kept. Repositories share
nothing: each has a number, under which the session keeps its blobs.

Reading runs in `Reading`: a computation that may fail and that passes the state of the session on,
also when it fails. -/

namespace HouseRules

/-- The blobs that are kept, the latest use first. -/
abbrev BlobCache := List (String × Bytes)

namespace BlobCache

/-- The blob of the given name. -/
def get? (c : BlobCache) (id : String) : Option Bytes := (c.find? (·.1 == id)).map (·.2)

/-- The cache after a use of a blob: it comes first, and at most `bound` blobs are kept. -/
def use (bound : Nat) (c : BlobCache) (id : String) (bytes : Bytes) : BlobCache :=
  ((id, bytes) :: c.filter (·.1 != id)).take bound

end BlobCache

/-- What a session has seen. -/
structure Session where
  /-- The blobs that are kept, by the number of the repository. -/
  caches : Nat → BlobCache := fun _ => []
  /-- The number of the next repository to be opened. -/
  next : Nat := 1
  /-- The calls of git, the latest first. -/
  calls : List GitCall := []
  /-- The blobs asked of a history held in memory, the latest first. -/
  reads : List String := []
deriving Inhabited

/-- The session with other blobs kept for a repository. -/
def Session.setCache (s : Session) (number : Nat) (c : BlobCache) : Session :=
  { s with caches := fun n => if n = number then c else s.caches n }

/-- A computation that reads a history. -/
abbrev Reading := ExceptT Failure (StateM Session)

namespace Reading

/-- The outcome of a computation and the session after it. -/
def start {α : Type} (r : Reading α) (s : Session) : Except Failure α × Session :=
  (ExceptT.run r).run s

/-- A value, or a failure of its own kind. -/
def ofExcept {ε α : Type} (wrap : ε → Failure) : Except ε α → Reading α
  | .ok a => pure a
  | .error e => throw (wrap e)

/-- A path that cannot be read is a failure. -/
def exit : Diff.Exit Reading where
  fail e := throw (.path e)
  fail_bind _ _ := rfl

end Reading

/-- Calls git in a directory and gives its output. -/
def callGit (git : Git) (directory : Path) (args : List String) : Reading Bytes := do
  modify fun s => { s with calls := ⟨args, directory.toString⟩ :: s.calls }
  Reading.ofExcept .git ((git args).toExcept args)

/-- Calls git in a directory and gives its output as text. -/
def callGitText (git : Git) (directory : Path) (args : List String) : Reading String :=
  Utf8.decodeLossy <$> callGit git directory args

/-- A repository. -/
structure Repository where
  /-- The git to call. -/
  git : Git
  /-- The top directory. -/
  path : Path
  /-- How many blobs are kept. -/
  cacheSize : Int := 64
  /-- The number under which the session keeps its blobs. -/
  number : Nat := 0

namespace Repository

/-- A new repository, of which no blobs are kept yet. -/
def openAt (git : Git) (path : Path) : Reading Repository := do
  let number := (← get).next
  modify fun s => { s.setCache number [] with next := number + 1 }
  return { git, path, number }

/-- The repository that holds a directory. -/
def discover (git : Git) (start : Path) : Reading Repository := do
  let top ← callGitText git start ["rev-parse", "--show-toplevel"]
  openAt git (Path.ofString (Text.strip top))

/-- The output of a call in the repository. -/
def call (r : Repository) (args : List String) : Reading Bytes := callGit r.git r.path args

/-- Some commit has been made. A call that fails for any reason counts as no. -/
def hasCommits (r : Repository) : Reading Bool :=
  tryCatch (do let _ ← r.call ["rev-parse", "--verify", "-q", "HEAD"]; return true)
    fun e => match e with
      | .git _ => return false
      | e => throw e

/-- The names of the commits of the current branch, the latest first. -/
def commitIds (r : Repository) : Reading (List String) := do
  if ← r.hasCommits then
    let output ← Utf8.decodeLossy <$> r.call ["rev-list", "HEAD"]
    return ((Search.pieces '\n' output.toList).filter (· ≠ [])).map String.ofList
  else return []

/-- The message of a commit without its last line feeds, if it is text. -/
def commitMessage (r : Repository) (id : String) : Reading (Option String) := do
  let raw ← r.call ["show", "-s", "--format=%B", id]
  match Utf8.decode raw with
  | .ok text => return some (Text.stripEndOf ['\n'] text)
  | .error _ => return none

/-- The session after a use of a blob of the repository. -/
def keep (r : Repository) (id : String) (bytes : Bytes) (s : Session) : Session :=
  s.setCache r.number ((s.caches r.number).use r.cacheSize.toNat id bytes)

/-- The contents of a blob, from the cache if they are kept there. -/
def blob (r : Repository) (id : String) : Reading Bytes := do
  match ((← get).caches r.number).get? id with
  | some bytes =>
    modify (r.keep id bytes)
    return bytes
  | none =>
    let bytes ← r.call ["cat-file", "blob", id]
    modify (r.keep id bytes)
    return bytes

/-- The arguments that show the changes of a commit. -/
def diffArgs (id : String) : List String :=
  ["diff-tree", "-p", "--root", "--full-index", "--unified=0", "--no-renames", "--no-color",
    "--no-commit-id", "--no-ext-diff", "--src-prefix=a/", "--dst-prefix=b/", id]

/-- The files that a commit touches. -/
def changedFiles (r : Repository) (id : String) : Reading (List ChangedFile) := do
  let output ← r.call (diffArgs id)
  Diff.changedFiles Reading.exit r.blob output

/-- The commit of the given name. -/
def commit (r : Repository) (id : String) : Reading Commit := do
  let message ← r.commitMessage id
  let files ← r.changedFiles id
  return ⟨id, message, files⟩

end Repository

/-! ### Histories -/

/-- A history that can be checked. -/
inductive History where
  /-- The history of a repository. -/
  | repository (r : Repository)
  /-- Given commits, the latest first, and blobs by name. -/
  | memory (commits : List Commit) (blobs : List (String × Bytes))

namespace History

/-- The commits of the current branch, the latest first, each still to be read. -/
def commits : History → Reading (List (Reading Commit))
  | repository r => do return (← r.commitIds).map r.commit
  | memory cs _ => return cs.map pure

/-- Reads a blob. A history held in memory notes which blobs are read. -/
def blob : History → String → Reading Bytes
  | repository r, id => r.blob id
  | memory _ blobs, id => do
    modify fun s => { s with reads := id :: s.reads }
    match blobs.find? (·.1 == id) with
    | some (_, bytes) => return bytes
    | none => throw (.unknownBlob id)

end History
end HouseRules
