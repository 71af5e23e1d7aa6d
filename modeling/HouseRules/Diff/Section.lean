import HouseRules.Diff.Line
import HouseRules.Diff.Quoted
import HouseRules.Text.Search

/-! # Sections of a diff

A diff is a list of sections, one for each file, and each section starts with a `diff --git` line.
`sections` cuts the lines of a diff there, `Section.entry?` reads one section on its own: the path
of the file, the blob with its new contents, and the numbers of the added lines. A section whose
first line names no path is left out. -/

namespace HouseRules.Diff

/-! ### Lines of a header -/

/-- The digits at the head of a byte string, and what follows. -/
def digits? (b : Bytes) : Option (Bytes × Bytes) :=
  match b.takeWhile Bytes.isDigit with
  | [] => none
  | ds => some (ds, b.dropWhile Bytes.isDigit)

/-- The hexadecimal digits at the head of a byte string, and what follows. -/
def hexDigits? (b : Bytes) : Option (Bytes × Bytes) :=
  match b.takeWhile Bytes.isHexDigit with
  | [] => none
  | ds => some (ds, b.dropWhile Bytes.isHexDigit)

/-- The rest of a byte string that starts with the given text. -/
def after? (text : String) (b : Bytes) : Option Bytes := Search.after? (Bytes.ofAscii text) b

/-- The byte string without `,` and digits at its head, if they stand there. -/
def dropCount (b : Bytes) : Bytes :=
  match after? "," b >>= digits? with
  | some (_, r) => r
  | none => b

/-- The number of the first added line that a line `@@ -a,b +c,d @@` gives. -/
def hunkStart? (line : Bytes) : Option Nat := do
  let (_, r) ← after? "@@ -" line >>= digits?
  let (c, r) ← after? " +" (dropCount r) >>= digits?
  let _ ← after? " @@" (dropCount r)
  return Bytes.number 10 c

/-- The second blob name, and the mode if one is given, of a line `index a..b mode`. -/
def indexLine? (line : Bytes) : Option (Bytes × Option Bytes) := do
  let (_, r) ← after? "index " line >>= hexDigits?
  let (new, r) ← after? ".." r >>= hexDigits?
  return (new, (after? " " r >>= digits?).map (·.1))

/-- The mode of a line `new mode m` or `new file mode m`. -/
def newMode? (line : Bytes) : Option Bytes := do
  let r ← after? "new " line
  let r := (after? "file " r).getD r
  let (mode, _) ← after? "mode " r >>= digits?
  return mode

/-- The mode under which a commit of another repository is recorded in place of a file. -/
def gitlinkMode : Bytes := Bytes.ofAscii "160000"

/-- The path of a `--- ` or `+++ ` line, given the text before it; none if the side is missing.
A tab follows a name that holds a space. -/
def headerPath? (line mark : Bytes) : Except PathError (Option String) := do
  let path ← unquote (Search.dropEndWhile (· == 0x09) (line.drop 4))
  return (Search.after? mark path).map Utf8.decodeLossy

/-- The path that a `diff --git` line gives for the new side. -/
def titlePath? (line : Bytes) : Except PathError (Option String) :=
  let title := line.drop 11
  let quoted :=
    if title.getLast? == some quote then Search.lastIndexOf? (Bytes.ofAscii " \"b/") title else none
  match quoted with
  | some i => do
    let path ← unquote (title.drop (i + 1))
    return some (Utf8.decodeLossy (path.drop 2))
  | none =>
    .ok <| (Search.lastIndexOf? (Bytes.ofAscii " b/") title).map fun i =>
      Utf8.decodeLossy (title.drop (i + 3))

/-! ### Reading a section -/

/-- The lines of a file's part of a diff: the `diff --git` line and those up to the next. -/
structure Section where
  /-- The first line. -/
  title : Bytes
  /-- The other lines. -/
  body : List Bytes
deriving DecidableEq, Repr

/-- The line starts a section. -/
def isTitle (line : Bytes) : Bool := (Bytes.ofAscii "diff --git").isPrefixOf line

/-- One step of the cut, from the last line to the first. -/
def cutStep (line : Bytes) (acc : List Bytes × List Section) : List Bytes × List Section :=
  if isTitle line then ([], ⟨line, acc.1⟩ :: acc.2) else (line :: acc.1, acc.2)

/-- The sections of a list of lines. Lines before the first section belong to none. -/
def sections (lines : List Bytes) : List Section := (lines.foldr cutStep ([], [])).2

/-- What has been read of a section. -/
structure Progress where
  /-- The path as known so far. -/
  path : String
  /-- The path of the old side. -/
  oldPath : Option String := none
  /-- The name of the new blob. -/
  blob : Option String := none
  /-- The file stands for a commit of another repository. -/
  gitlink : Bool := false
  /-- The numbers of the added lines, the last one first. -/
  added : List Nat := []
  /-- The number of the next added line. -/
  next : Nat := 0
  /-- A hunk has started. -/
  inHunk : Bool := false
deriving DecidableEq, Repr

/-- The first text that is there and not empty, else the last argument. -/
def firstNamed (candidates : List (Option String)) (default : String) : String :=
  (candidates.filterMap id).find? (· ≠ "") |>.getD default

/-- The name of a blob, none if it consists of zeros. -/
def blobName? (hash : Bytes) : Option String :=
  if hash.all (· == 0x30) then none else some (Bytes.toAscii hash)

/-- Reads a line before the first hunk. -/
def readHeader (p : Progress) (line : Bytes) : Except PathError Progress :=
  if (Bytes.ofAscii "--- ").isPrefixOf line then do
    let path ← headerPath? line (Bytes.ofAscii "a/")
    return { p with oldPath := path }
  else if (Bytes.ofAscii "+++ ").isPrefixOf line then do
    let path ← headerPath? line (Bytes.ofAscii "b/")
    return { p with path := firstNamed [path, p.oldPath] p.path }
  else match newMode? line with
    | some mode => .ok { p with gitlink := mode == gitlinkMode }
    | none => match indexLine? line with
      | some (hash, mode) =>
        .ok { p with blob := blobName? hash, gitlink := p.gitlink || mode == some gitlinkMode }
      | none => .ok p

/-- Reads one line of a section. -/
def readLine (p : Progress) (line : Bytes) : Except PathError Progress :=
  match hunkStart? line with
  | some n => .ok { p with inHunk := true, next := n }
  | none =>
    if !p.inHunk then readHeader p line
    else if line.head? == some 0x2B then .ok { p with added := p.next :: p.added, next := p.next + 1 }
    else .ok p

/-- What a section says of its file. -/
structure Entry where
  /-- The path of the file. -/
  path : String
  /-- The blob to read the added lines from. -/
  blob : Option String
  /-- The numbers of the added lines. -/
  added : List Nat
deriving DecidableEq, Repr

/-- The entry of a section that has been read to its end. -/
def Progress.entry (p : Progress) : Entry where
  path := p.path
  blob := if p.gitlink then none else p.blob
  added := p.added.reverse

/-- The entry of a section, none if its first line gives no path. -/
def Section.entry? (s : Section) : Except PathError (Option Entry) := do
  match ← titlePath? s.title with
  | none => return none
  | some path =>
    let p ← s.body.foldlM readLine { path := path }
    return some p.entry

/-- The blob that has to be read for an entry: one is named and some line is added. -/
def Entry.wanted? (e : Entry) : Option String := if e.added.isEmpty then none else e.blob

/-- The changed file of an entry whose blob has been read. -/
def Entry.file (e : Entry) (blob : Option (String × Bytes)) : ChangedFile where
  path := e.path
  changes := match blob with
    | none => []
    | some (id, bytes) => changesForLines id bytes (e.added.map Int.ofNat)

/-- The changed file of an entry, its blob read by `load`. -/
def Entry.resolve {m : Type → Type} [Monad m] (load : String → m Bytes) (e : Entry) :
    m ChangedFile :=
  match e.wanted? with
  | none => pure (e.file none)
  | some id => do return e.file (some (id, ← load id))

/-- The lines of a diff. -/
def lines (output : Bytes) : List Bytes := Search.pieces Bytes.newline output

end HouseRules.Diff
