import HouseRules.Diff.Quoted
import HouseRules.History.Git

/-! # Failures of a check

A check fails when git does, when a blob is unknown, when a path of a diff cannot be read, or when
what it was given breaks a promise: a syntax node without a required part, a commit without a
readable message, a blob that is no text. -/

namespace HouseRules

/-- A broken promise. -/
inductive Violation where
  /-- A syntax node lacks a part. -/
  | missingField (kind : String) (start stop : Int) (field : String)
  /-- A commit has no readable message. -/
  | noMessage (commit : String)
  /-- A blob is no text. -/
  | notText (blob path : String)
  /-- A violation that a check words itself. -/
  | reported (text : String)
deriving DecidableEq, Repr

/-- The wording of a broken promise. -/
def Violation.message : Violation → String
  | missingField kind start stop field =>
    s!"{kind} at bytes {start}..{stop} has no '{field}' field"
  | noMessage commit => s!"commit {commit} has no message"
  | notText blob path => s!"blob {blob} of {path} is not valid UTF-8"
  | reported text => text

/-- Why a check failed. -/
inductive Failure where
  /-- A call of git failed. -/
  | git (e : GitError)
  /-- A path of a diff cannot be read. -/
  | path (e : Diff.PathError)
  /-- No blob has the name. -/
  | unknownBlob (id : String)
  /-- A promise was broken. -/
  | violation (v : Violation)
deriving DecidableEq, Repr

end HouseRules
