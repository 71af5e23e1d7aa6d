/-! # Commits

What a history records: commits with their message, the files a commit touches, and the lines it
adds to each of them. A line is known by its text and by the byte range that it covers, terminator
included, in the blob that holds the file's new contents. -/

namespace HouseRules

/-- The bytes from `start` up to, not including, `stop`. Either end may lie outside the string. -/
structure ByteRange where
  /-- The first offset. -/
  start : Int
  /-- The offset after the last. -/
  stop : Int
deriving DecidableEq, Repr, Inhabited

/-- A line that a commit adds. -/
structure Change where
  /-- The text of the line. -/
  content : String
  /-- Where the line stands in its blob. -/
  range : ByteRange
  /-- The name of the blob. -/
  blob : String
deriving DecidableEq, Repr

/-- A file that a commit touches. -/
structure ChangedFile where
  /-- The path of the file. -/
  path : String
  /-- The lines added to it. -/
  changes : List Change
deriving DecidableEq, Repr

/-- A commit. -/
structure Commit where
  /-- The name of the commit. -/
  id : String
  /-- The message, if it is readable text. -/
  message : Option String
  /-- The files it touches. -/
  files : List ChangedFile
deriving DecidableEq, Repr

end HouseRules
