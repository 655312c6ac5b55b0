import SheetReport.CommandLine

/-!
# The program

The outermost layer: it reads the files below the working directory, carries out the command of
the arguments, creates the directories that came into being, and prints the answer. Files of
text are read as such; packed workbooks and pictures are of no known kind here, since a library
that models their contents does not unpack them.
-/

namespace SheetReport.Program

/-- What a file on the disk holds. -/
def readContent (path : String) : IO FileContent := do
  try
    return .text (← IO.FS.readFile path)
  catch _ =>
    return .unknown

/-- The files and directories below a directory. -/
partial def readBelow (directory : String) : IO (List (String × FileNode)) := do
  let root ← IO.FS.realPath directory
  let mut nodes := []
  for entry in ← root.readDir do
    let path := Path.join directory entry.fileName
    if ← entry.path.isDir then
      nodes := nodes ++ (path, FileNode.directory) :: (← readBelow path)
    else
      nodes := nodes ++ [(path, FileNode.file (← readContent path))]
  return nodes

/-- The paths of the directories in a store. -/
def directories (files : FileStore) : List String :=
  files.inside.filterMap fun e =>
    if e.2.isDirectory then some ("/".intercalate e.1) else none

/-- Carry out a command and print its answer. -/
def run (arguments : List String) : IO UInt32 := do
  let files := FileStore.ofList (← readBelow ".")
  let config ← IO.getEnv "TALLYSHEET_CONFIG"
  let (after, answer) := CommandLine.execute files arguments config
  for directory in directories after do
    IO.FS.createDirAll directory
  IO.print answer.output
  if let some error := answer.error then
    IO.eprintln ("error: " ++ error)
  return UInt32.ofNat answer.code

end SheetReport.Program

/-- The program. -/
def main (arguments : List String) : IO UInt32 := SheetReport.Program.run arguments
