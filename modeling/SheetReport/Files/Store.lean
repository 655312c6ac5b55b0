import SheetReport.Files.Path
import SheetReport.OrderedMap
import SheetReport.Workbook.Error
import SheetReport.Workbook.Sheet

/-!
# Stores of files

A store holds regular files and directories, and knows the working directory. A location is the
list of names that leads to a file from the root of all files; a path is followed to its
location step by step, and every step but the last has to lead to a directory. Around everything
that a store holds there is a directory, and everything has a possible name.

A file is saved under a temporary name beside its place and then moved there, so that a file
is either old or new and never in between.
-/

namespace SheetReport

/-- What a file holds. -/
inductive FileContent where
  | text (s : String)
  | picture
  | workbook (w : Workbook)
  /-- Something that cannot be read as any of these. -/
  | unknown
deriving Inhabited

/-- A workbook's content; a workbook that cannot be read at all is of no known kind. -/
def FileContent.ofWorkbook : Option Workbook → FileContent
  | some w => .workbook w
  | none => .unknown

/-- What stands at a location. -/
inductive FileNode where
  | directory
  | file (content : FileContent)
deriving Inhabited

/-- Whether this is a directory. -/
def FileNode.isDirectory : FileNode → Bool
  | .directory => true
  | .file _ => false

/-- The names that lead to a file from the root of all files. -/
abbrev Location := List String

namespace Location

/-- The longest name of a file in bytes. -/
def maxName : Nat := 255

/-- Whether a file can have a name. Dots that lead nowhere or up are no names. -/
def isName (name : String) : Bool :=
  !(["", ".", ".."].contains name) && name.utf8ByteSize ≤ maxName &&
    name.toList.all fun c => c != '/' && c != '\x00'

end Location

/-- Files and directories by location, and the working directory. -/
structure FileStore where
  nodes : OrderedMap Location FileNode
  current : Location
  root_mem : nodes.get? [] = some .directory
  current_mem : nodes.get? current = some .directory
  parent_mem : ∀ l name node, nodes.get? (l ++ [name]) = some node →
    nodes.get? l = some .directory ∧ Location.isName name = true

namespace FileStore

/-- What stands at a location. -/
def node? (s : FileStore) (l : Location) : Option FileNode := s.nodes.get? l

/-- Whether there is a directory at a location. -/
def hasDirectory (s : FileStore) (l : Location) : Bool := (s.node? l).any FileNode.isDirectory

/-- A location has a directory exactly when one stands there. -/
theorem hasDirectory_iff {s : FileStore} {l : Location} :
    s.hasDirectory l = true ↔ s.node? l = some .directory := by
  unfold hasDirectory
  cases s.node? l with
  | none => simp
  | some node => cases node <;> simp [FileNode.isDirectory]

/-- Whether something can be put at a location: under a possible name, in a directory, and not
where a directory is. -/
def canHold (s : FileStore) (l : Location) : Bool :=
  l.getLast?.any Location.isName && s.hasDirectory l.dropLast && !s.hasDirectory l

/-- A location that can hold something is a name in a directory and no directory itself. -/
theorem canHold_iff {s : FileStore} {l : Location} :
    s.canHold l = true ↔ ∃ dir name, l = dir ++ [name] ∧ Location.isName name = true ∧
      s.node? dir = some .directory ∧ s.node? l ≠ some .directory := by
  simp only [canHold, Bool.and_eq_true, Bool.not_eq_true', ← Bool.not_eq_true, hasDirectory_iff,
    Option.any_eq_true]
  constructor
  · intro h
    obtain ⟨⟨⟨name, hlast, hname⟩, hdir⟩, hnot⟩ := h
    obtain ⟨dir, rfl⟩ := List.getLast?_eq_some_iff.mp hlast
    rw [List.dropLast_concat] at hdir
    exact ⟨dir, name, rfl, hname, hdir, hnot⟩
  · intro h
    obtain ⟨dir, name, rfl, hname, hdir, hnot⟩ := h
    exact ⟨⟨⟨name, by simp, hname⟩, by rwa [List.dropLast_concat]⟩, hnot⟩

/-- The store of a root directory alone. -/
def empty : FileStore where
  nodes := OrderedMap.empty.insert [] .directory
  current := []
  root_mem := OrderedMap.get?_insert_self _ _ _
  current_mem := OrderedMap.get?_insert_self _ _ _
  parent_mem l name node h := by
    rw [OrderedMap.get?_insert_of_ne _ _ (by simp)] at h
    contradiction

instance : Inhabited FileStore := ⟨empty⟩

/-- The store with something at a location; a location that cannot hold anything stays. -/
def put (s : FileStore) (l : Location) (node : FileNode) : FileStore :=
  if h : s.canHold l = true then
    have kept {d : Location} (hd : s.node? d = some .directory) :
        (s.nodes.insert l node).get? d = some .directory := by
      obtain ⟨dir, name, -, -, -, hnot⟩ := canHold_iff.mp h
      rw [OrderedMap.get?_insert_of_ne _ _ (by rintro rfl; exact hnot hd)]
      exact hd
    { nodes := s.nodes.insert l node
      current := s.current
      root_mem := kept s.root_mem
      current_mem := kept s.current_mem
      parent_mem := by
        intro d name node' hnode
        obtain ⟨dir, name', rfl, hname, hdir, -⟩ := canHold_iff.mp h
        by_cases heq : d ++ [name] = dir ++ [name']
        · obtain ⟨rfl, rfl⟩ := List.append_singleton_inj.mp heq
          exact ⟨kept hdir, hname⟩
        · rw [OrderedMap.get?_insert_of_ne _ _ heq] at hnode
          obtain ⟨hd, hname⟩ := s.parent_mem d name node' hnode
          exact ⟨kept hd, hname⟩ }
  else s

/-- The store without the file at a location; directories stay. -/
def remove (s : FileStore) (l : Location) : FileStore :=
  if h : s.hasDirectory l = true then s
  else
    have kept {d : Location} (hd : s.node? d = some .directory) :
        (s.nodes.erase l).get? d = some .directory := by
      rw [OrderedMap.get?_erase_of_ne _ (by rintro rfl; exact h (hasDirectory_iff.mpr hd))]
      exact hd
    { nodes := s.nodes.erase l
      current := s.current
      root_mem := kept s.root_mem
      current_mem := kept s.current_mem
      parent_mem := by
        intro d name node hnode
        have hne : d ++ [name] ≠ l := by
          rintro rfl
          simp at hnode
        rw [OrderedMap.get?_erase_of_ne _ hne] at hnode
        obtain ⟨hd, hname⟩ := s.parent_mem d name node hnode
        exact ⟨kept hd, hname⟩ }

/-- One step from a directory. The root has no directory above it. -/
def step (l : Location) (name : String) : Location := if name = ".." then l.dropLast else l ++ [name]

/-- The location that steps lead to, if they leave directories only. -/
def follow? (s : FileStore) (l : Location) : List String → Option Location
  | [] => some l
  | name :: rest => if s.hasDirectory l then follow? s (step l name) rest else none

/-- Where a path starts. -/
def start (s : FileStore) (path : String) : Location :=
  if Path.isAbsolute path then [] else s.current

/-- The location that a path leads to, whether or not something is there. -/
def locate? (s : FileStore) (path : String) : Option Location :=
  if path = "" then none else s.follow? (s.start path) (Path.steps path)

/-- What a path leads to. -/
def find? (s : FileStore) (path : String) : Option FileNode :=
  ((s.locate? path).bind s.node?).filter fun node =>
    node.isDirectory || !Path.isDirectoryOnly path

/-- Whether a path leads to anything. -/
def contains (s : FileStore) (path : String) : Bool := (s.find? path).isSome

/-- The content of the file that a path leads to. -/
def content? (s : FileStore) (path : String) : Option FileContent :=
  match s.find? path with
  | some (.file content) => some content
  | _ => none

/-- The text of the file that a path leads to. -/
def text? (s : FileStore) (path : String) : Option String :=
  match s.content? path with
  | some (.text text) => some text
  | _ => none

/-- Whether a path leads to a picture. -/
def isPicture (s : FileStore) (path : String) : Bool :=
  match s.content? path with
  | some .picture => true
  | _ => false

/-- The extensions of workbooks of other kinds, whose files are read as nothing else. -/
def otherExtensions : List String := ["xls", "xla", "xlsb", "ods"]

/-- The workbook in the file that a path leads to. -/
def workbook (s : FileStore) (path : String) : Except WorkbookError Workbook :=
  match s.content? path with
  | some (.workbook w) =>
    if (Path.extension? path).any otherExtensions.contains then .error .read else .ok w
  | _ => .error .read

/-- The name of what stands at a location, if that is in a directory, with what it stands for. -/
def child? (l : Location) (e : Location × FileNode) : Option (String × FileNode) :=
  (e.1.getLast?.filter fun name => e.1 = l ++ [name]).map (·, e.2)

/-- The names in a directory with what they stand for, in the order of names. -/
def children (s : FileStore) (l : Location) : List (String × FileNode) :=
  s.nodes.entries.filterMap (child? l)

/-- The names of the regular files in the directory that a path leads to; none if there is no
such directory. -/
def filesIn? (s : FileStore) (path : String) : Option (List String) :=
  match s.find? path, s.locate? path with
  | some .directory, some l =>
    some (((s.children l).filter fun c => !c.2.isDirectory).map Prod.fst)
  | _, _ => none

/-- Create the directories along some steps that do not exist. Nothing more is created once a
step leads to a file or to no possible name. -/
def makeDirectories (s : FileStore) (l : Location) : List String → FileStore × Bool
  | [] => (s, true)
  | name :: rest =>
    let l := step l name
    match s.node? l with
    | some .directory => s.makeDirectories l rest
    | some (.file _) => (s, false)
    | none =>
      if s.canHold l then (s.put l .directory).makeDirectories l rest else (s, false)

/-- Prepare the place of an output: its directory is created, and whatever is there is an error
unless it may be overwritten. -/
def prepare (s : FileStore) (path : String) (overwrite : Bool) :
    FileStore × Except WorkbookError Unit :=
  if s.contains path && !overwrite then (s, .error (.outputExists path))
  else
    let (s, done) := s.makeDirectories (s.start path) (Path.steps path).dropLast
    (s, if done then .ok () else .error .io)

/-- The steps to the temporary file of an output. -/
def partialSteps (path : String) : List String :=
  match Path.fileName? path with
  | some name => (Path.steps path).dropLast ++ [Path.partialName name]
  | none => Path.steps path ++ [Path.partialName ""]

/-- The location that a file can be written at, by the steps to it. -/
def writable? (s : FileStore) (path : String) (steps : List String) : Option Location :=
  (s.follow? (s.start path) steps).filter s.canHold

/-- The location that a file can be moved to. -/
def target? (s : FileStore) (path : String) : Option Location :=
  if Path.isDirectoryOnly path then none else (s.locate? path).filter s.canHold

/-- Save a file: write a temporary file and move it to its place. If it cannot be moved, the
temporary file is removed. -/
def save (s : FileStore) (path : String) (content : FileContent) :
    FileStore × Except WorkbookError Unit :=
  match s.writable? path (partialSteps path) with
  | none => (s, .error .io)
  | some temporary =>
    match s.target? path with
    | none => (s.remove temporary, .error .io)
    | some l => ((s.remove temporary).put l (.file content), .ok ())

/-- The names that lead from the working directory to what lies in it, with what they lead to. -/
def inside (s : FileStore) : List (List String × FileNode) :=
  s.nodes.entries.filterMap fun e =>
    match s.current.isPrefixOf? e.1 with
    | none | some [] => none
    | some names => some (names, e.2)

/-- What lies in the working directory, with slashes between the names and after those of
directories, in their order. -/
def listing (s : FileStore) : List String :=
  let shown := s.inside.map fun e => "/".intercalate e.1 ++ if e.2.isDirectory then "/" else ""
  shown.mergeSort fun a b => decide (a ≤ b)

/-- The store with a file or directory at a path, and the directories that lead there. -/
def place (s : FileStore) (path : String) (node : FileNode) : FileStore :=
  let (s, _) := s.makeDirectories (s.start path) (Path.steps path).dropLast
  match s.locate? path with
  | some l => s.put l node
  | none => s

/-- The store with a directory as the working directory, if there is such a directory. -/
def enter (s : FileStore) (l : Location) : FileStore :=
  if h : s.hasDirectory l = true then
    { s with current := l, current_mem := hasDirectory_iff.mp h }
  else s

/-- The store of an empty working directory some way below the root. -/
def workspace : FileStore :=
  (empty.makeDirectories [] ["home", "reports"]).1.enter ["home", "reports"]

/-- The store of a list of paths. -/
def ofList (nodes : List (String × FileNode)) : FileStore :=
  nodes.foldl (fun s e => s.place e.1 e.2) workspace

end FileStore

end SheetReport
