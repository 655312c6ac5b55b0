import Mathlib.Data.List.Basic
import SheetReport.Files.Path

/-!
# The names of files

What the name of a file does to a path. A path that a name is put behind leads to a file of
that name, or of a longer name if the path does not end with a slash; the directories on the way
are those of the path alone. So all files that are named after one path lie in one directory.
-/

namespace SheetReport.Path

/-- A path ends with the name of a file that lies in the directory some steps away. -/
structure NamesFile (path : String) (dir : List String) (name : String) : Prop where
  steps_eq : steps path = dir ++ [name]
  name_ne : name ≠ ".."
  notDirectoryOnly : isDirectoryOnly path = false

namespace NamesFile

variable {path name : String} {dir : List String}

/-- The name at the end of a path is the name of its file. -/
theorem fileName?_eq (h : NamesFile path dir name) : fileName? path = some name := by
  rw [fileName?, h.steps_eq, List.getLast?_concat]
  simp [h.name_ne]

/-- A path with a name is not empty. -/
theorem ne_empty (h : NamesFile path dir name) : path ≠ "" := by
  rintro rfl
  have hsteps := h.steps_eq
  rw [show steps "" = [] from by decide] at hsteps
  exact List.append_ne_nil_of_right_ne_nil dir (List.cons_ne_nil name []) hsteps.symm

end NamesFile

/-- A text without slashes is one name. -/
theorem segments_of_slashFree {name : String} (h : '/' ∉ name.toList) : segments name = [name] := by
  rw [segments, List.splitOn_eq_singleton h]
  simp

/-- A slash ends a name. -/
theorem segments_append_slash (path rest : String) :
    segments (path ++ "/" ++ rest) = segments path ++ segments rest := by
  have hchars : (path ++ "/" ++ rest).toList = path.toList ++ '/' :: rest.toList := by simp
  rw [segments, hchars, List.splitOn_append_cons_self, List.map_append]
  rfl

/-- The steps of a path come from both sides of a slash. -/
theorem steps_append_slash (path rest : String) :
    steps (path ++ "/" ++ rest) = steps path ++ steps rest := by
  rw [steps, segments_append_slash, List.filter_append]
  rfl

/-- Every path is a name, possibly behind a slash. -/
theorem eq_or_eq_append_slash (path : String) :
    ∃ name, '/' ∉ name.toList ∧ (path = name ∨ ∃ rest, path = rest ++ "/" ++ name) := by
  by_cases hslash : '/' ∈ path.toList
  · obtain ⟨before, after, hsplit, hfree⟩ :=
      List.eq_append_cons_of_mem (List.mem_reverse.mpr hslash)
    refine ⟨String.ofList before.reverse, by simpa using hfree, .inr ?_⟩
    refine ⟨String.ofList after.reverse, ?_⟩
    rw [← String.toList_inj, ← List.reverse_inj, hsplit]
    simp
  · exact ⟨path, hslash, .inl rfl⟩

section Name

variable {name : String} (hfree : '/' ∉ name.toList) (hname : name ∉ ["", ".", ".."])
include hfree hname

/-- A name is a path to a file of that name. -/
theorem namesFile_self : NamesFile name [] name := by
  simp only [List.mem_cons, List.not_mem_nil, or_false, not_or] at hname
  obtain ⟨hempty, hdot, hdots⟩ := hname
  refine ⟨?_, hdots, ?_⟩
  · simp [steps, segments_of_slashFree hfree, hempty, hdot]
  · simp [isDirectoryOnly, segments_of_slashFree hfree, hempty, hdot, hdots]

/-- A name behind a slash is a path to a file of that name. -/
theorem namesFile_append_slash (path : String) :
    NamesFile (path ++ "/" ++ name) (steps path) name := by
  obtain ⟨hsteps, hne, hdirectory⟩ := namesFile_self hfree hname
  refine ⟨by rw [steps_append_slash, hsteps]; rfl, hne, ?_⟩
  rw [isDirectoryOnly, segments_append_slash, segments_of_slashFree hfree, List.getLastD_concat]
  rwa [isDirectoryOnly, segments_of_slashFree hfree] at hdirectory

end Name

/-- A path that does not only lead to directories ends with the name of a file. -/
theorem exists_namesFile {path : String} (h : isDirectoryOnly path = false) :
    ∃ dir name, NamesFile path dir name := by
  obtain ⟨name, hfree, rfl | ⟨rest, rfl⟩⟩ := eq_or_eq_append_slash path
  · refine ⟨[], path, namesFile_self hfree ?_⟩
    simpa [isDirectoryOnly, segments_of_slashFree hfree] using h
  · refine ⟨steps rest, name, namesFile_append_slash hfree ?_ rest⟩
    rw [isDirectoryOnly, segments_append_slash, segments_of_slashFree hfree,
      List.getLastD_concat] at h
    simpa using h

/-- All names put behind one path name files in one directory, with what the path ends with
before each of them. A name has to be longer than what could make dots of it. -/
theorem exists_namesFile_append (base : String) :
    ∃ dir start, (∀ step ∈ dir, step ∈ segments base) ∧
      ∀ name, '/' ∉ name.toList → start ++ name ∉ ["", ".", ".."] →
        NamesFile (base ++ name) dir (start ++ name) := by
  obtain ⟨start, hfree, rfl | ⟨rest, rfl⟩⟩ := eq_or_eq_append_slash base
  · refine ⟨[], base, by simp, fun name hname hdots => namesFile_self ?_ hdots⟩
    simp [hfree, hname]
  · refine ⟨steps rest, start, ?_, ?_⟩
    · intro step hstep
      rw [segments_append_slash]
      exact List.mem_append_left _ (List.mem_of_mem_filter hstep)
    · intro name hname hdots
      rw [String.append_assoc]
      exact namesFile_append_slash (by simp [hfree, hname]) hdots rest

/-- What is put behind a path that is not empty does not make it absolute. -/
theorem isAbsolute_append {path rest : String} (h : path = "" → isAbsolute rest = false) :
    isAbsolute (path ++ rest) = isAbsolute path := by
  by_cases hempty : path = ""
  · subst hempty
    rw [String.empty_append, h rfl]
    rfl
  · obtain ⟨c, chars, hchars⟩ := List.exists_cons_of_ne_nil (mt String.toList_eq_nil_iff.mp hempty)
    simp [isAbsolute, hchars]

/-- A text without slashes is no absolute path. -/
theorem isAbsolute_of_slashFree {name : String} (h : '/' ∉ name.toList) :
    isAbsolute name = false := by
  rw [isAbsolute, beq_eq_false_iff_ne]
  exact fun hhead => h (List.mem_of_mem_head? hhead)

/-- A path that is not absolute stands alone or behind a slash below a directory. -/
theorem join_cases (directory : String) {path : String} (h : isAbsolute path = false) :
    directory = "" ∧ join directory path = path ∨
      ∃ rest, (directory = rest ++ "/" ∨ directory = rest) ∧
        join directory path = rest ++ "/" ++ path := by
  by_cases hempty : directory = ""
  · exact .inl ⟨hempty, by simp [join, hempty]⟩
  · refine .inr ?_
    by_cases hslash : directory.toList.getLast? = some '/'
    · obtain ⟨chars, hchars⟩ := List.getLast?_eq_some_iff.mp hslash
      have hdirectory : directory = String.ofList chars ++ "/" := by
        rw [← String.toList_inj, hchars]
        simp
      refine ⟨String.ofList chars, .inl hdirectory, ?_⟩
      rw [← hdirectory]
      simp [join, h, hempty, hslash]
    · exact ⟨directory, .inr rfl, by simp [join, h, hempty, hslash]⟩

/-- The names of a joined path come from its parts. -/
theorem mem_segments_join {directory path name : String} (h : name ∈ segments (join directory path)) :
    name ∈ segments directory ∨ name ∈ segments path := by
  cases habsolute : isAbsolute path with
  | true => exact .inr (by simpa [join, habsolute] using h)
  | false =>
    obtain ⟨-, hjoin⟩ | ⟨rest, hdirectory, hjoin⟩ := join_cases directory habsolute
    · exact .inr (hjoin ▸ h)
    · rw [hjoin, segments_append_slash, List.mem_append] at h
      refine h.imp_left fun hmem => ?_
      obtain rfl | rfl := hdirectory
      · rw [← String.append_empty (s := rest ++ "/"), segments_append_slash]
        exact List.mem_append_left _ hmem
      · exact hmem

/-- A name put behind a path goes with it below a directory. -/
theorem join_append (directory path : String) {name : String} (h : '/' ∉ name.toList) :
    join directory (path ++ name) = join directory path ++ name := by
  simp only [join, isAbsolute_append fun _ => isAbsolute_of_slashFree h]
  split_ifs <;> simp [String.append_assoc]

section Join

variable {directory name : String} (hfree : '/' ∉ name.toList) (hname : name ∉ ["", ".", ".."])
include hfree hname

/-- A name in a directory is a path to a file of that name. -/
theorem namesFile_join : NamesFile (join directory name) (steps directory) name := by
  obtain ⟨rfl, hjoin⟩ | ⟨rest, hdirectory, hjoin⟩ :=
    join_cases directory (isAbsolute_of_slashFree hfree)
  · rw [hjoin]
    exact namesFile_self hfree hname
  · have hsteps : steps rest = steps directory := by
      obtain rfl | rfl := hdirectory
      · rw [← String.append_empty (s := rest ++ "/"), steps_append_slash]
        exact (List.append_nil _).symm
      · rfl
    rw [hjoin, ← hsteps]
    exact namesFile_append_slash hfree hname rest

omit hname in
/-- A name in a directory starts where the directory starts. -/
theorem isAbsolute_join : isAbsolute (join directory name) = isAbsolute directory := by
  have hrelative := isAbsolute_of_slashFree hfree
  by_cases hempty : directory = ""
  · simp [join, hempty, hrelative]
    rfl
  · simp only [join, hrelative, Bool.false_or, beq_iff_eq, if_neg hempty]
    split_ifs
    · exact isAbsolute_append fun h => absurd h hempty
    · rw [String.append_assoc]
      exact isAbsolute_append fun h => absurd h hempty

end Join

/-- The name of a temporary file begins with a dot. -/
theorem head?_partialName (name : String) : (partialName name).toList.head? = some '.' := by
  simp [partialName]

/-- The name of a temporary file is longer than that of its file. -/
theorem length_partialName (name : String) : (partialName name).length = name.length + 9 := by
  rw [partialName, String.length_append, String.length_append]
  have hstart : ".".length = 1 := rfl
  have hend : ".partial".length = 8 := rfl
  omega

/-- A temporary file has another name than its file. -/
theorem ne_partialName_self (name : String) : name ≠ partialName name := by
  intro h
  have hlength := congrArg String.length h
  rw [length_partialName] at hlength
  omega

/-- The name of a temporary file is no dots. -/
theorem partialName_ne_dots (name : String) : partialName name ≠ ".." := by
  intro h
  have hlength := congrArg String.length h
  have hdots : "..".length = 2 := rfl
  rw [length_partialName] at hlength
  omega

/-- Files of different names have temporary files of different names. -/
theorem partialName_injective : Function.Injective partialName := by
  intro a b h
  simpa [partialName, String.append_left_inj, String.append_right_inj] using h

end SheetReport.Path
