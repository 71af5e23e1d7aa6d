import HouseRules.Check.Filter
import HouseRules.History.Repository
import HouseRules.Snippet.Message
import HouseRules.Source.Namespace

/-! # Checks and findings

A check looks at one context at a time, a source file, a directory or a history, and reports its
findings in the order in which it makes them. Whether a context concerns it, and what the filters
mean for it, is for the check to decide. -/

namespace HouseRules

/-- Something that a check found. -/
structure Finding where
  /-- The check. -/
  checkId : String
  /-- What it says. -/
  message : String
  /-- The file. -/
  path : String
  /-- The commit, for a finding in a history. -/
  commitId : Option String := none
deriving DecidableEq, Repr

/-- A source file with its syntax tree. -/
structure SourceFile where
  /-- The path of the file. -/
  path : String
  /-- Its text. -/
  contents : String
  /-- The top node of its syntax tree. -/
  root : SyntaxNode

/-- The syntax tree of a file. -/
def SourceFile.tree (f : SourceFile) : SyntaxTree := ⟨f.root, Utf8.encode f.contents⟩

/-- What a check looks at. -/
inductive Context where
  /-- A source file. -/
  | file (f : SourceFile)
  /-- A directory. -/
  | directory (path : String)
  /-- A history. -/
  | history (h : History)

/-- A check, whose work is done in the monad `m`. -/
structure Check (m : Type → Type) where
  /-- The identifier, such as `ASY001`. -/
  id : String
  /-- The readable name. -/
  name : String
  /-- Looks at a context. -/
  execute : Context → List Filter → m (List Finding)

end HouseRules
