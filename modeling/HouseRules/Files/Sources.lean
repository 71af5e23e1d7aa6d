import HouseRules.Check.Finding
import HouseRules.CSharp.Outline
import HouseRules.Files.Glob

/-! # Source files of a run

What is checked is named by files, directories and patterns. A directory stands for all C# sources
below it. Files that lie in directories of builds and tools are left out, unless these lie above the
working directory. Each file is read once, in the order in which it is first named. -/

namespace HouseRules

/-- What a run finds around it: a file tree with a working directory, a screen, and room for nested
calls. -/
structure Workspace where
  /-- The files. -/
  tree : FileTree
  /-- The working directory. -/
  directory : Path
  /-- Its path does not depend on another directory. -/
  absolute : directory.isAbsolute = true := by exact Eq.refl true
  /-- The screen trims lines that are wider than it is. -/
  trims : Bool := false
  /-- There is room to read a text as a pattern. -/
  room : String → Bool := fun _ => true

/-- Why source files cannot be had. -/
inductive SourceError where
  /-- Nothing that was named is a file. -/
  | nothingMatched (patterns : List String)
  /-- A file is no text. -/
  | notText (path : String) (fault : Utf8.Fault)

/-- The wording of a source error. -/
def SourceError.message : SourceError → String
  | nothingMatched patterns =>
    "No files matched: " ++ ", ".intercalate patterns ++
      "\nUse a directory or glob patterns like: stricture 'src/**/*.cs'"
  | notText path fault => s!"Cannot read {path}: {fault.message}"

namespace Sources

/-- The pattern of the names of source files. -/
def sourceName : String := "*.cs"

/-- The directories of builds and tools. -/
def excludedNames : List String :=
  [".git", ".vs", ".idea", "bin", "obj", "node_modules", "packages", "TestResults"]

/-- The path has no excluded name below the base. -/
def isIncluded (base p : Path) : Bool :=
  (p.shortenedBy base).components.all (!excludedNames.contains ·)

/-- The path that a text names in the workspace. -/
def pathOf (w : Workspace) (text : String) : Path := w.directory ++ Path.ofString text

/-- The paths that a text stands for. -/
def pathsOf (w : Workspace) (text : String) : List Path :=
  let p := pathOf w text
  if w.tree.isDirectory p then Glob.paths w.tree ((p.child "**").child sourceName)
  else if Glob.isPattern text then Glob.paths w.tree p
  else [p]

/-- The elements without later repetitions. -/
def distinct {α : Type} [BEq α] (l : List α) : List α :=
  (l.foldl (fun seen a => if seen.contains a then seen else a :: seen) []).reverse

/-- The files that some texts stand for. -/
def resolve (w : Workspace) (patterns : List String) : List Path :=
  (distinct ((patterns.flatMap (pathsOf w)).filter w.tree.isFile)).filter (isIncluded w.directory)

/-- Reads a source file. Its path is given as seen from the working directory. -/
def read (w : Workspace) (p : Path) : Except SourceError SourceFile :=
  let path := (p.shortenedBy w.directory).toString
  match textOfFile ((w.tree.bytes? p).getD []) with
  | .ok contents => .ok { path, contents, root := CSharp.outline contents }
  | .error fault => .error (.notText path fault)

/-- The source files that some texts stand for. -/
def files (w : Workspace) (patterns : List String) : Except SourceError (List SourceFile) :=
  let found := resolve w patterns
  if !patterns.isEmpty && found.isEmpty then .error (.nothingMatched patterns)
  else found.mapM (read w)

/-- The directories among some texts, as they were written. -/
def directories (w : Workspace) (patterns : List String) : List String :=
  patterns.filter fun text => w.tree.isDirectory (pathOf w text)

/-- What is checked besides histories: the directories, then the files. -/
def contexts (w : Workspace) (patterns : List String) : Except SourceError (List Context) := do
  let files ← files w patterns
  return (directories w patterns).map .directory ++ files.map .file

end Sources
end HouseRules
