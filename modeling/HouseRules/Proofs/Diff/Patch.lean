import HouseRules.Diff.Section
import HouseRules.Proofs.Diff.Quoting
import HouseRules.Proofs.Text.Lines

/-! # Patches

What is printed for a list of changed files, and what it is to be read as. A patch of a file has a
title, lines on its modes and blobs, and possibly hunks; the types leave only patches that can be
printed. `write` prints patches. `FilePatch.changedFile` says what a patch adds to its file: line
`n` of the new blob for each added line, where `n` counts on from the number that the hunk gives.

A patch without a line for the new side has its name only in the title, where the two names are not
set apart. If the name is not quoted and holds ` b/`, the reader takes what follows the last one
(`FilePatch.readPath`). -/

namespace HouseRules.Diff

/-- A text without a line feed. -/
structure LineText where
  /-- Its bytes. -/
  bytes : Bytes
  /-- None of them is a line feed. -/
  single : Bytes.newline ∉ bytes := by decide

/-- The empty text. -/
def LineText.empty : LineText where
  bytes := []

/-- The mode of a file. -/
structure Mode where
  /-- Its digits. -/
  digits : Bytes
  /-- There are some. -/
  ne_nil : digits ≠ [] := by decide
  /-- They are digits. -/
  isDigit : ∀ x ∈ digits, Bytes.isDigit x = true := by decide +kernel

/-- The mode of a plain file. -/
def Mode.plain : Mode where
  digits := Bytes.ofAscii "100644"

/-- The name of a blob. -/
structure Hash where
  /-- Its digits. -/
  digits : Bytes
  /-- There are some. -/
  ne_nil : digits ≠ [] := by decide
  /-- They are hexadecimal digits. -/
  isHexDigit : ∀ x ∈ digits, Bytes.isHexDigit x = true := by decide +kernel

/-- A name that stands for no blob. -/
def Hash.zero : Hash where
  digits := Bytes.ofAscii "00"

/-- The name of a blob as a text. -/
def Hash.name (h : Hash) : String := Bytes.toAscii h.digits

/-- The name stands for no blob. -/
def Hash.isZero (h : Hash) : Bool := h.digits.all (· == 0x30)

/-- The path of a file. -/
structure FilePath where
  /-- Its bytes. -/
  bytes : Bytes
  /-- There are some. -/
  ne_nil : bytes ≠ [] := by decide
  /-- None of them is zero. -/
  noZero : 0 ∉ bytes := by decide

/-! ### Hunks -/

/-- A line of a hunk. -/
inductive HunkLine where
  /-- A line of the old blob. -/
  | removed (text : LineText)
  /-- A line of the new blob. -/
  | added (text : LineText)
  /-- A note that the line before has no line feed. -/
  | note (text : LineText)

/-- The note behind a last line. -/
def HunkLine.noNewline : HunkLine :=
  .note { bytes := Bytes.ofAscii " No newline at end of file" }

/-- A hunk. -/
structure Hunk where
  /-- The number of the first old line. -/
  oldStart : Nat
  /-- The number of old lines, if it is given. -/
  oldCount : Option Nat
  /-- The number of the first new line. -/
  newStart : Nat
  /-- The number of new lines, if it is given. -/
  newCount : Option Nat
  /-- What follows on the first line of the hunk. -/
  heading : LineText
  /-- The lines of the hunk. -/
  lines : List HunkLine

/-- A number in digits. -/
def numeral (n : Nat) : Bytes := Bytes.ofAscii (Nat.repr n)

/-- A count behind its comma, if it is given. -/
def countText : Option Nat → Bytes
  | none => []
  | some n => Bytes.ofAscii "," ++ numeral n

/-- A line of a hunk as it is printed. -/
def HunkLine.text : HunkLine → Bytes
  | removed t => Bytes.ofAscii "-" ++ t.bytes
  | added t => Bytes.ofAscii "+" ++ t.bytes
  | note t => Bytes.ofAscii "\\" ++ t.bytes

/-- The text of an added line. -/
def HunkLine.added? : HunkLine → Option Bytes
  | added t => some t.bytes
  | _ => none

namespace Hunk

/-- The texts of the added lines. -/
def added (h : Hunk) : List Bytes := h.lines.filterMap HunkLine.added?

/-- The first line of a hunk. -/
def head (h : Hunk) : Bytes :=
  Bytes.ofAscii "@@ -" ++ (numeral h.oldStart ++ (countText h.oldCount ++
    (Bytes.ofAscii " +" ++ (numeral h.newStart ++ (countText h.newCount ++
      (Bytes.ofAscii " @@" ++ h.heading.bytes))))))

/-- The lines of a hunk as they are printed. -/
def text (h : Hunk) : List Bytes := h.head :: h.lines.map HunkLine.text

end Hunk

/-! ### Patches of a file -/

/-- How a file changes, besides its lines. -/
inductive Header where
  /-- The file stays, with its mode. -/
  | kept (old new : Hash) (isBlob : new.isZero = false) (mode : Option Mode)
  /-- Only the mode changes. -/
  | modeOnly (oldMode newMode : Mode)
  /-- The mode and the contents change. -/
  | modeChanged (oldMode newMode : Mode) (old new : Hash) (isBlob : new.isZero = false)
  /-- The file is new. -/
  | created (mode : Mode) (old new : Hash) (isBlob : new.isZero = false)
  /-- The file is gone. -/
  | deleted (mode : Mode) (old new : Hash) (noBlob : new.isZero = true)

/-- The line on the blobs. -/
def indexText (old new : Hash) (mode : Option Mode) : Bytes :=
  Bytes.ofAscii "index " ++ (old.digits ++ (Bytes.ofAscii ".." ++ (new.digits ++
    match mode with
    | none => []
    | some m => Bytes.ofAscii " " ++ m.digits)))

namespace Header

/-- The lines on modes and blobs as they are printed. -/
def text : Header → List Bytes
  | kept old new _ mode => [indexText old new mode]
  | modeOnly oldMode newMode =>
    [Bytes.ofAscii "old mode " ++ oldMode.digits, Bytes.ofAscii "new mode " ++ newMode.digits]
  | modeChanged oldMode newMode old new _ =>
    [Bytes.ofAscii "old mode " ++ oldMode.digits, Bytes.ofAscii "new mode " ++ newMode.digits,
      indexText old new none]
  | created mode old new _ =>
    [Bytes.ofAscii "new file mode " ++ mode.digits, indexText old new none]
  | deleted mode old new _ =>
    [Bytes.ofAscii "deleted file mode " ++ mode.digits, indexText old new none]

/-- The new blob. -/
def newHash? : Header → Option Hash
  | kept _ new _ _ => some new
  | modeOnly _ _ => none
  | modeChanged _ _ _ new _ => some new
  | created _ _ new _ => some new
  | deleted .. => none

/-- The new mode, if it is given. -/
def newMode? : Header → Option Mode
  | kept _ _ _ mode => mode
  | modeOnly _ newMode => some newMode
  | modeChanged _ newMode _ _ _ => some newMode
  | created mode _ _ _ => some mode
  | deleted .. => none

/-- There is an old side. -/
def hasOld : Header → Bool
  | created .. => false
  | _ => true

/-- There is a new side. -/
def hasNew : Header → Bool
  | deleted .. => false
  | _ => true

/-- The file stands for a commit of another repository. -/
def isGitlink (h : Header) : Bool := h.newMode?.map Mode.digits == some gitlinkMode

end Header

/-- What is shown of a file's lines. -/
inductive Content where
  /-- Nothing. -/
  | absent
  /-- That the contents are no text. -/
  | binary
  /-- Hunks. -/
  | hunks (hs : List Hunk)

/-- The hunks of a content. -/
def Content.toHunks : Content → List Hunk
  | hunks hs => hs
  | _ => []

/-- The patch of a file. -/
structure FilePatch where
  /-- The path of the file. -/
  path : FilePath
  /-- Its modes and blobs. -/
  header : Header
  /-- Its lines. -/
  content : Content
  /-- A change of the mode alone shows no lines. -/
  modeOnly : ∀ old new, header = .modeOnly old new → content = .absent

namespace FilePatch

/-- The name of one side. -/
def name (p : FilePatch) (side : String) : Bytes := writeName (Bytes.ofAscii side ++ p.path.bytes)

/-- The name of one side, if the side is there. -/
def sideName (p : FilePatch) (side : String) (isThere : Bool) : Bytes :=
  if isThere then p.name side else Bytes.ofAscii "/dev/null"

/-- The name of one side as it stands behind `---` or `+++`: with a tab behind it if it holds a
blank. -/
def label (p : FilePatch) (side : String) (isThere : Bool) : Bytes :=
  p.sideName side isThere ++ if isThere && p.path.bytes.contains 0x20 then [0x09] else []

/-- The first line. -/
def title (p : FilePatch) : Bytes :=
  Bytes.ofAscii "diff --git " ++ (p.name "a/" ++ (Bytes.ofAscii " " ++ p.name "b/"))

/-- The lines on the file's lines as they are printed. -/
def contentText (p : FilePatch) : List Bytes :=
  match p.content with
  | .absent => []
  | .binary =>
    [Bytes.ofAscii "Binary files " ++ (p.sideName "a/" p.header.hasOld ++ (Bytes.ofAscii " and " ++
      (p.sideName "b/" p.header.hasNew ++ Bytes.ofAscii " differ")))]
  | .hunks hs =>
    (Bytes.ofAscii "--- " ++ p.label "a/" p.header.hasOld) ::
      (Bytes.ofAscii "+++ " ++ p.label "b/" p.header.hasNew) :: hs.flatMap Hunk.text

/-- The lines behind the first as they are printed. -/
def body (p : FilePatch) : List Bytes := p.header.text ++ p.contentText

/-- The patch as it is printed. -/
def text (p : FilePatch) : Bytes := (p.title :: p.body).flatMap (· ++ [Bytes.newline])

end FilePatch

/-- Patches as they are printed. -/
def write (ps : List FilePatch) : Bytes := ps.flatMap FilePatch.text

/-! ### What a patch is read as -/

/-- What follows the last ` b/` of a name, all of it if there is none. -/
def afterLastMark : Bytes → Bytes
  | [] => []
  | x :: r =>
    if Search.occurs (Bytes.ofAscii " b/") r then afterLastMark r
    else (Search.after? (Bytes.ofAscii " b/") (x :: r)).getD (x :: r)

namespace FilePatch

/-- The path holds a byte that is not written as it is. -/
def needsQuotes (p : FilePatch) : Bool := p.path.bytes.any isSpecial

/-- The path that the title gives. -/
def titlePath (p : FilePatch) : Bytes :=
  if p.needsQuotes then p.path.bytes else afterLastMark p.path.bytes

/-- The path that is read. It is the path of the file, unless only the title tells it and the title
can be cut in more than one way. -/
def readPath (p : FilePatch) : Bytes :=
  match p.content with
  | .hunks _ => p.path.bytes
  | _ => p.titlePath

/-- The blob of which lines are added: the new one, unless it is of another repository. -/
def newBlob? (p : FilePatch) : Option Hash :=
  if p.header.isGitlink then none else p.header.newHash?

/-- The added lines with their numbers. -/
def added (p : FilePatch) : List (Nat × Bytes) :=
  p.content.toHunks.flatMap fun h => h.added.zipIdx.map fun (t, i) => (h.newStart + i, t)

/-- The blob that is needed to read the patch: there is one, and some line is added. -/
def neededBlob? (p : FilePatch) : Option Hash :=
  if p.added = [] then none else p.newBlob?

/-- Line `n` of the blob is `text`, with a line feed behind it or at the end of the blob. -/
def IsLine (blob : Bytes) (n : Nat) (text : Bytes) : Prop :=
  1 ≤ n ∧ ((Bytes.cutLines blob)[n - 1]? = some (text ++ [Bytes.newline]) ∨
    (Bytes.cutLines blob)[n - 1]? = some text)

/-- The added lines of a patch stand in its new blob at their numbers. -/
def Fits (p : FilePatch) (blobs : String → Bytes) : Prop :=
  ∀ h, p.newBlob? = some h → ∀ n text, (n, text) ∈ p.added → IsLine (blobs h.name) n text

/-- The line feed behind an added line, unless the blob ends with the line. -/
def ending (blob : Bytes) (n : Nat) (text : Bytes) : Bytes :=
  if Bytes.lineOffset blob (n - 1) + text.length < blob.length then [Bytes.newline] else []

/-- The change of an added line: its text with its ending, the range that this covers in the blob.
-/
def addedChange (id : String) (blob : Bytes) (n : Nat) (text : Bytes) : Change where
  content := Utf8.decodeLossy (text ++ ending blob n text)
  range := ⟨Bytes.lineOffset blob (n - 1),
    Bytes.lineOffset blob (n - 1) + (text ++ ending blob n text).length⟩
  blob := id

/-- The lines that a patch adds. -/
def changes (p : FilePatch) (blobs : String → Bytes) : List Change :=
  match p.newBlob? with
  | none => []
  | some h => p.added.map fun (n, text) => addedChange h.name (blobs h.name) n text

/-- What a patch is read as. -/
def changedFile (p : FilePatch) (blobs : String → Bytes) : ChangedFile where
  path := Utf8.decodeLossy p.readPath
  changes := p.changes blobs

end FilePatch

end HouseRules.Diff
