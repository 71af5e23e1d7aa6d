import HouseRules.Files.Sources
import HouseRules.Settings.Basic
import HouseRules.Yaml.Document

/-! # Settings files

The settings are read from a file that is named, or else from the first of some names that stands in
the working directory, or else they are the defaults. -/

namespace HouseRules.Settings

/-- The names of settings files, in the order in which they are looked for. -/
def fileNames : List String :=
  [".stricture.yaml", ".stricture.yml", "stricture.yaml", "stricture.yml"]

/-- Why settings cannot be had. -/
inductive LoadError where
  /-- The named file does not exist. -/
  | missing (path : String)
  /-- The file is a directory. -/
  | directory (path : String)
  /-- The file is no text. -/
  | notText (fault : Utf8.Fault)
  /-- The text is not readable as a document. -/
  | document (e : Yaml.Error)
  /-- The document states no settings. -/
  | settings (e : Settings.Error)

/-- The wording of an error. -/
def LoadError.message : LoadError → String
  | missing path => s!"Config file not found: {path}"
  | directory path => s!"[Errno 21] Is a directory: {Text.quoted path}"
  | notText fault => fault.message
  | document e => e.message
  | settings e => e.message

/-- The settings in a text. A document that counts as nothing states no settings. -/
def ofText (text : String) : Except LoadError Settings :=
  match Yaml.load text with
  | .error e => .error (.document e)
  | .ok v =>
    match Settings.ofValue (if v.isNothing then .mapping [] else v) with
    | .ok s => .ok s
    | .error e => .error (.settings e)

/-- The settings in a file. -/
def ofFile (w : Workspace) (path : Path) : Except LoadError Settings :=
  match w.tree.find? (w.directory ++ path) with
  | none => .error (.missing path.toString)
  | some .directory => .error (.directory path.toString)
  | some (.file b) =>
    match textOfFile b with
    | .ok text => ofText text
    | .error fault => .error (.notText fault.whenHeldBack)

/-- The settings in the named file, or in the file that the working directory holds. -/
def load (w : Workspace) (named : Option Path) : Except LoadError Settings :=
  match named with
  | some path => ofFile w path
  | none =>
    match (fileNames.map w.directory.child).find? w.tree.leadsSomewhere with
    | some path => ofFile w path
    | none => .ok {}

end HouseRules.Settings
