import HouseRules.Text.Blank
import HouseRules.Text.Utf8

/-! # Calls of git

Git is a function from arguments to a reply. A failed call is reported with its arguments and with
what git wrote, from which directories are cut out of the lines that state an error.

`Recording` is a git that answers from stored commits and blobs. -/

namespace HouseRules

/-- What a call of git comes to. -/
inductive GitReply where
  /-- It succeeds and prints. -/
  | output (bytes : Bytes)
  /-- It fails with an exit code and prints an error. -/
  | failed (code : Nat) (stderr : Bytes)
  /-- There is no git to call. -/
  | missing
deriving DecidableEq, Repr

/-- A git: its reply to each list of arguments. -/
abbrev Git := List String → GitReply

/-- A call of git in a directory. -/
structure GitCall where
  /-- The arguments. -/
  args : List String
  /-- The working directory. -/
  directory : String
deriving DecidableEq, Repr

/-- The whole command line of a call. -/
def GitCall.commandLine (c : GitCall) : List String :=
  "git" :: "-c" :: "core.quotePath=false" :: c.args

/-- Why a call of git gave no output. -/
inductive GitError where
  /-- Git failed. -/
  | failed (args : List String) (stderr : String)
  /-- Git cannot be called. -/
  | missing
deriving DecidableEq, Repr

/-- The part of a text after its last slash. -/
def afterLastSlash (s : String) : String :=
  String.ofList ((Search.pieces '/' s.toList).getLastD [])

/-- A line of an error output, cut behind its last slash if it states an error. -/
def sanitizeLine (line : String) : String :=
  let states := fun (word : String) => Search.occurs word.toList line.toList
  if states "fatal:" || states "error:" then afterLastSlash line else line

/-- An error output without directories. -/
def sanitizeError (stderr : String) : String :=
  "\n".intercalate <|
    (Search.pieces '\n' (Text.strip stderr).toList).map fun l => sanitizeLine (String.ofList l)

/-- The wording of a git error. -/
def GitError.message : GitError → String
  | failed args stderr => "git " ++ " ".intercalate args ++ " failed: " ++ sanitizeError stderr
  | missing => "git executable not found"

/-- The output of a reply. -/
def GitReply.toExcept (args : List String) : GitReply → Except GitError Bytes
  | output bytes => .ok bytes
  | failed _ stderr => .error (.failed args (Utf8.decodeLossy stderr))
  | missing => .error .missing

/-! ### A git with stored answers -/

/-- A stored commit. -/
structure RecordedCommit where
  /-- The name of the commit. -/
  id : String
  /-- What showing its message prints. -/
  message : Bytes
  /-- What showing its changes prints. -/
  diff : Bytes
deriving DecidableEq, Repr

/-- Calls that fail: those whose arguments, joined by blanks, start with a text. -/
structure RecordedFailure where
  /-- How the arguments start. -/
  start : String
  /-- The error output. -/
  stderr : Bytes
  /-- The exit code. -/
  code : Nat := 128
deriving DecidableEq, Repr

/-- A repository from which calls are answered. -/
structure Recording where
  /-- What asking for the top directory prints. -/
  top : Bytes
  /-- The commits, the latest first. -/
  commits : List RecordedCommit := []
  /-- The blobs by name. -/
  blobs : List (String × Bytes) := []
  /-- The calls that fail. -/
  failures : List RecordedFailure := []
deriving DecidableEq, Repr

namespace Recording

/-- The reply to a call about an object that is not there. -/
def badObject (name : String) : GitReply :=
  .failed 128 (Utf8.encode s!"fatal: bad object {name}\n")

/-- The reply to a call that is not made to fail. -/
def answer (r : Recording) (args : List String) : GitReply :=
  let last := args.getLastD ""
  if args = ["rev-parse", "--show-toplevel"] then .output r.top
  else if args = ["rev-parse", "--verify", "-q", "HEAD"] then
    if r.commits.isEmpty then .failed 1 [] else .output []
  else if args = ["rev-list", "HEAD"] then
    .output (r.commits.flatMap fun c => Utf8.encode (c.id ++ "\n"))
  else match args.head?, r.commits.find? (·.id == last), r.blobs.find? (·.1 == last) with
    | some "show", some c, _ => .output c.message
    | some "diff-tree", some c, _ => .output c.diff
    | some "cat-file", _, some (_, bytes) => .output bytes
    | _, _, _ => badObject last

/-- The git that answers from the recording. -/
def git (r : Recording) : Git := fun args =>
  let joined := " ".intercalate args
  match r.failures.find? fun f => f.start.toList.isPrefixOf joined.toList with
  | some f => .failed f.code f.stderr
  | none => r.answer args

end Recording
end HouseRules
