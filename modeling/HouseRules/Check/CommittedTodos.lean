import HouseRules.Check.Finding
import HouseRules.Json.Quoted

/-! # The rule on committed marks

No commit of the current branch may add a line that holds `// TODO` or `// FIXME`. The file is
shown as it was in the commit.

The commits are read one by one, from the latest on. A file whose path a filter matches ends the
scan, and with it goes all that was found before. -/

namespace HouseRules.CommittedTodos

open Styled

/-- The identifier of the check. -/
def checkId : String := "GIT001"

/-- The name of the check. -/
def checkName : String := "no-committed-todos"

/-- The marks that a line must not hold. -/
def marks : List String := ["// TODO", "// FIXME"]

/-- The title, in words. -/
def title : String := "expected no commited changes to contain TODO or FIXME"

/-- The title with its key words marked. -/
def styledTitle : StyledText :=
  [bare "expected no commited changes to contain ", span "TODO" .red, bare " or ",
    span "FIXME" .red]

/-- The line holds a mark. -/
def holdsMark (line : String) : Bool := marks.any fun m => Search.occurs m.toList line.toList

/-! ### The range to show -/

/-- The first readable character between two offsets, if it is white space. -/
def leadingBlank? (content : Bytes) (start stop : Int) : Option Char :=
  match Utf8.decodeIgnoringList (content.slice start stop) with
  | c :: _ => if Text.isBlank c then some c else none
  | [] => none

/-- Moves the start of a range over the white space at its head. -/
def skipBlanks (content : Bytes) (start stop : Int) : Int :=
  if start < stop then
    match leadingBlank? content start stop with
    | some c => skipBlanks content (start + c.utf8Size) stop
    | none => start
  else start
termination_by (stop - start).toNat
decreasing_by
  have := c.utf8Size_pos
  omega

/-- The part of a line to mark: all but its last byte and the white space at its head. -/
def displayRange (content : Bytes) (range : ByteRange) : ByteRange :=
  let stop := range.stop - 1
  ⟨skipBlanks content range.start stop, stop⟩

/-! ### Findings -/

/-- The help for a finding in a commit. -/
def help (commitId text : String) : StyledText :=
  [bare "consider removing all ", span "TODOs" .red, bare " and ", span "FIXMEs" .red,
    bare " from commit ", span commitId .yellow, bare " with message ",
    span (Json.literal .unicode text) .cyan]

/-- The message for a change of a file whose blob has been read as `source`. -/
def message (commitId text path source : String) (content : Bytes) (c : Change) : Message where
  title := styledTitle
  snippets := [
    { source
      origin := path
      range := displayRange content c.range
      label := title }]
  help := some (help commitId text)

/-- The finding for a change. Its blob is read. -/
def report (rendering : Rendering) (h : History) (commitId text path : String) (c : Change) :
    Reading Finding := do
  let content ← h.blob c.blob
  match Utf8.decode content with
  | .error _ => throw (.violation (.notText c.blob path))
  | .ok source =>
    return {
      checkId := checkId
      message := rendering.render (message commitId text path source content c)
      path
      commitId := some commitId }

/-- What the scan of files comes to: their findings, or none because a path is ignored. -/
inductive Outcome where
  /-- The findings. -/
  | found (fs : List Finding)
  /-- An ignored path was met. -/
  | ignored

/-- Scans the files of a commit. -/
def scanFiles (rendering : Rendering) (h : History) (ignored : String → Bool) (commit : Commit) :
    List ChangedFile → Reading Outcome
  | [] => return .found []
  | f :: fs => do
    if ignored f.path then return .ignored
    match commit.message with
    | none => throw (.violation (.noMessage commit.id))
    | some text =>
      let here ← (f.changes.filter (holdsMark ·.content)).mapM
        (report rendering h commit.id text f.path)
      match ← scanFiles rendering h ignored commit fs with
      | .ignored => return .ignored
      | .found there => return .found (here ++ there)

/-- Scans commits, each of which is read when its turn comes. -/
def scan (rendering : Rendering) (h : History) (ignored : String → Bool) :
    List (Reading Commit) → Reading Outcome
  | [] => return .found []
  | c :: cs => do
    let commit ← c
    match ← scanFiles rendering h ignored commit commit.files with
    | .ignored => return .ignored
    | .found here =>
      match ← scan rendering h ignored cs with
      | .ignored => return .ignored
      | .found there => return .found (here ++ there)

/-- The findings in a history. -/
def findings (rendering : Rendering) (h : History) (filters : List Filter) :
    Reading (List Finding) := do
  let ignored (path : String) : Bool := filters.any (·.matchesPath path)
  match ← scan rendering h ignored (← h.commits) with
  | .found fs => return fs
  | .ignored => return []

/-- The check. -/
def check (rendering : Rendering) : Check Reading where
  id := checkId
  name := checkName
  execute
    | .history h, filters => findings rendering h filters
    | _, _ => return []

end HouseRules.CommittedTodos
