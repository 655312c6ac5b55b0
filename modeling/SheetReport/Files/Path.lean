/-!
# Paths

A path is a text of names with slashes between them. Empty names and single dots do not count,
two dots lead to the directory above. A path is shown as it was given and followed by its
steps.
-/

namespace SheetReport.Path

/-- The names between the slashes of a path. -/
def segments (path : String) : List String :=
  (path.toList.splitOn '/').map String.ofList

/-- The steps of a path: its names without those that lead nowhere. -/
def steps (path : String) : List String :=
  (segments path).filter fun s => s != "" && s != "."

/-- Whether a path starts at the root of all files. -/
def isAbsolute (path : String) : Bool := path.toList.head? == some '/'

/-- Whether a path can only lead to a directory, by its end. -/
def isDirectoryOnly (path : String) : Bool := ["", ".", ".."].contains ((segments path).getLastD "")

/-- The name of what a path leads to; none if it ends above or at its start. -/
def fileName? (path : String) : Option String := (steps path).getLast?.filter (· != "..")

/-- The name of the temporary file beside a file of a name. -/
def partialName (name : String) : String := "." ++ name ++ ".partial"

/-- The part of a name after its last dot; a dot at its start does not count. -/
def extension? (path : String) : Option String :=
  (fileName? path).bind fun name =>
    match (name.toList.splitOn '.').reverse with
    | [] | [_] => none
    | [_, []] => none
    | last :: _ => some (String.ofList last)

/-- A path below a directory; an absolute path stays as it is. -/
def join (directory path : String) : String :=
  if isAbsolute path || directory == "" then path
  else if directory.toList.getLast? == some '/' then directory ++ path
  else directory ++ "/" ++ path

end SheetReport.Path
