import HouseRules.Command.Outcome

/-! # The program

The program reads the files below its working directory, makes the call that its arguments ask for,
writes both outputs and exits with the code of the call. It starts no other program, so the history
of a repository is reported as missing git. -/

namespace HouseRules.Program

/-- The entries at and below a place in a directory. Links are not followed. -/
partial def entriesAt (here : Location) (e : IO.FS.DirEntry) : IO (List (Location × Entry)) := do
  let place := here ++ [e.fileName]
  match (← e.path.symlinkMetadata).type with
  | .dir =>
    let inner ← (← e.path.readDir).toList.mapM (entriesAt place)
    return (place, .directory) :: inner.flatten
  | .file => return [(place, .file (← IO.FS.readBinFile e.path).toList)]
  | _ => return []

/-- The files below the working directory. -/
def workspace : IO Workspace := do
  let here ← IO.currentDir
  let directory := Path.ofString here.toString
  let found ← (← here.readDir).toList.mapM (entriesAt directory.names)
  let above := (FileTree.above directory.names ++ [directory.names]).map (·, Entry.directory)
  if absolute : directory.isAbsolute = true then
    return { tree := ⟨above ++ found.flatten⟩, directory, absolute }
  else throw (IO.userError "no working directory")

/-- The environment variable for errors in full. -/
def debugVariable : String := "STRICTURE_DEBUG"

/-- Makes a call and writes what it leaves behind. -/
def run (args : List String) : IO UInt32 := do
  let debugValue := (← IO.getEnv debugVariable).getD ""
  match Command.call (fun _ => .missing) (← workspace) debugValue args with
  | .usage => return Command.usageCode.toUInt32
  | .done o =>
    IO.print o.stdout
    IO.eprint o.stderr
    return o.exitCode.toUInt32

end HouseRules.Program

/-- The program. -/
def main (args : List String) : IO UInt32 := HouseRules.Program.run args
