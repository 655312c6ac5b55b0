import Mathlib.Data.List.Nodup
import SheetReport.Formatter
import SheetReport.Proofs.Files.Store

/-!
# The inputs of a run

The inputs of a run are different files of one directory, and none of their names begins with a
dot. So a name that is put before all of them gives different names again, none of which is that
of the temporary file of another.
-/

namespace SheetReport

open SheetReport.Path (NamesFile partialName)

namespace Location

/-- The name of a file has no slash and is no dots. -/
theorem slashFree_of_isName {name : String} (h : isName name = true) :
    '/' ∉ name.toList ∧ name ∉ ["", ".", ".."] := by
  simp only [isName, Bool.and_eq_true, Bool.not_eq_true', List.all_eq_true, bne_iff_ne] at h
  obtain ⟨⟨hdots, -⟩, hchars⟩ := h
  exact ⟨fun hslash => (hchars '/' hslash).1 rfl, by simpa using hdots⟩

end Location

/-- The name of an input begins with something else than a dot. -/
theorem exists_cons_of_isInputName {name : String} (hname : name ≠ "")
    (h : isInputName name = true) : ∃ c chars, name.toList = c :: chars ∧ c ≠ '.' := by
  obtain ⟨c, chars, hchars⟩ := List.exists_cons_of_ne_nil (mt String.toList_eq_nil_iff.mp hname)
  refine ⟨c, chars, hchars, ?_⟩
  rintro rfl
  simp [isInputName, hchars] at h

/-- What ends with the name of an input is no dots. -/
theorem append_notMem_dots {name : String} (hname : name ≠ "") (h : isInputName name = true)
    (start : String) : start ++ name ∉ ["", ".", ".."] := by
  obtain ⟨c, chars, hchars, hc⟩ := exists_cons_of_isInputName hname h
  have hmem : c ∈ (start ++ name).toList := by simp [hchars]
  have hdots (text : String) (htext : ∀ c' ∈ text.toList, c' = '.') : start ++ name ≠ text := by
    rintro rfl
    exact hc (htext c hmem)
  simp only [List.mem_cons, List.not_mem_nil, or_false, not_or]
  exact ⟨hdots "" (by simp), hdots "." (by simp), hdots ".." (by simp)⟩

/-- What ends with the name of an input is no temporary file of what begins alike. -/
theorem append_ne_partialName {name : String} (hname : name ≠ "") (h : isInputName name = true)
    (start other : String) : start ++ name ≠ partialName (start ++ other) := by
  obtain ⟨c, chars, hchars, hc⟩ := exists_cons_of_isInputName hname h
  -- if the two agreed, what begins both would be dots alone, and so would be what follows
  have hne (start rest : List Char) : start ++ c :: chars ≠ '.' :: (start ++ rest) := by
    induction start with
    | nil => exact fun heq => hc (List.cons.inj heq).1
    | cons a rest' ih =>
      intro heq
      obtain ⟨rfl, htail⟩ := List.cons.inj heq
      exact ih htail
  intro heq
  refine hne start.toList (other ++ ".partial").toList ?_
  simpa [partialName, hchars, String.append_assoc] using congrArg String.toList heq

/-- A temporary file is no input. -/
theorem isInputName_partialName (name : String) : isInputName (partialName name) = false := by
  obtain ⟨chars, hchars⟩ := List.head?_eq_some_iff.mp (Path.head?_partialName name)
  simp [isInputName, hchars]

namespace FileStore

variable {files : FileStore} {l : Location} {name : String} {node : FileNode}

/-- What stands in a directory has its name as the last one. -/
theorem eq_of_child?_eq_some {e : Location × FileNode} (h : child? l e = some (name, node)) :
    e = (l ++ [name], node) := by
  obtain ⟨name', hname', hchild⟩ := Option.map_eq_some_iff.mp h
  obtain ⟨rfl, rfl⟩ := Prod.mk.inj hchild
  obtain ⟨-, hlocation⟩ := Option.filter_eq_some_iff.mp hname'
  exact Prod.ext (of_decide_eq_true hlocation) rfl

/-- The names in a directory are those of what stands below it. -/
theorem node?_of_mem_children (h : (name, node) ∈ files.children l) :
    files.node? (l ++ [name]) = some node := by
  obtain ⟨e, he, hchild⟩ := List.mem_filterMap.mp h
  exact OrderedMap.get?_eq_some_iff.mpr (eq_of_child?_eq_some hchild ▸ he)

/-- Each name occurs in a directory once. -/
theorem nodup_children (files : FileStore) (l : Location) :
    ((files.children l).map Prod.fst).Nodup := by
  have hkeys : files.nodes.entries.Pairwise fun a b => a.1 ≠ b.1 := by
    refine files.nodes.sorted.imp fun {a b} hlt heq => ?_
    simp [heq] at hlt
  rw [List.nodup_iff_pairwise_ne, List.pairwise_map, children, List.pairwise_filterMap]
  refine hkeys.imp fun {a b} hne child hchild child' hchild' heq => hne ?_
  rw [eq_of_child?_eq_some hchild, eq_of_child?_eq_some hchild', heq]

/-- The regular files of a directory are found under their names. -/
theorem exists_of_filesIn? {path : String} {names : List String}
    (h : files.filesIn? path = some names) :
    ∃ l, files.locate? path = some l ∧ files.hasDirectory l = true ∧ names.Nodup ∧
      ∀ name ∈ names, ∃ content, files.node? (l ++ [name]) = some (.file content) := by
  unfold filesIn? at h
  split at h
  · rename_i l hfind hlocate
    rw [find?, hlocate, Option.bind_some, Option.filter_eq_some_iff] at hfind
    obtain rfl := Option.some.inj h
    refine ⟨l, hlocate, hasDirectory_iff.mpr hfind.1, ?_, fun name hname => ?_⟩
    · exact (nodup_children files l).sublist (List.filter_sublist.map Prod.fst)
    · obtain ⟨child, hchild, rfl⟩ := List.mem_map.mp hname
      obtain ⟨hmem, hfile⟩ := List.mem_filter.mp hchild
      have hnode := node?_of_mem_children hmem
      cases hkind : child.2 with
      | directory =>
        rw [hkind] at hfile
        contradiction
      | file content => exact ⟨content, hkind ▸ hnode⟩
  · contradiction

/-- A name in a directory leads to what stands there under it. -/
theorem locate?_join {directory : String} (hlocate : files.locate? directory = some l)
    (hdirectory : files.hasDirectory l = true) (hfree : '/' ∉ name.toList)
    (h : NamesFile (Path.join directory name) (Path.steps directory) name) :
    files.locate? (Path.join directory name) = some (l ++ [name]) := by
  have hstart : files.start (Path.join directory name) = files.start directory := by
    rw [start, Path.isAbsolute_join hfree, start]
  rw [locate?] at hlocate
  split_ifs at hlocate
  rw [locate?_eq h, hstart, hlocate, Option.bind_some, if_pos hdirectory]

end FileStore

/-- The inputs of a run are different files with content, each under its name in one directory. -/
theorem exists_of_discoverInputs {files : FileStore} {directory : String} {inputs : List String}
    (h : discoverInputs files directory = .ok inputs) :
    inputs.Nodup ∧ ∀ i ∈ inputs, ∃ name l content, i = Path.join directory name ∧
      Path.fileName? i = some name ∧ Location.isName name = true ∧ isInputName name = true ∧
      files.locate? i = some (l ++ [name]) ∧ files.content? i = some content := by
  unfold discoverInputs at h
  split at h
  · rename_i names hfiles
    obtain ⟨l, hlocate, hdirectory, hnodup, hnodes⟩ := FileStore.exists_of_filesIn? hfiles
    obtain rfl := Except.ok.inj h
    have hpath {name : String} (hname : name ∈ names) :
        NamesFile (Path.join directory name) (Path.steps directory) name := by
      obtain ⟨content, hnode⟩ := hnodes name hname
      obtain ⟨hfree, hdots⟩ := Location.slashFree_of_isName (files.parent_mem _ _ _ hnode).2
      exact Path.namesFile_join hfree hdots
    refine ⟨List.Nodup.map_on ?_ (hnodup.filter _), fun i hi => ?_⟩
    · intro a ha b hb heq
      have hname := (hpath (List.mem_of_mem_filter ha)).fileName?_eq
      rw [heq, (hpath (List.mem_of_mem_filter hb)).fileName?_eq] at hname
      exact (Option.some.inj hname).symm
    · obtain ⟨name, hname, rfl⟩ := List.mem_map.mp hi
      obtain ⟨hmem, hinput⟩ := List.mem_filter.mp hname
      obtain ⟨content, hnode⟩ := hnodes name hmem
      have hvalid := (files.parent_mem _ _ _ hnode).2
      have hlocation : files.locate? (Path.join directory name) = some (l ++ [name]) :=
        FileStore.locate?_join hlocate hdirectory (Location.slashFree_of_isName hvalid).1
          (hpath hmem)
      exact ⟨name, l, content, rfl, (hpath hmem).fileName?_eq, hvalid, hinput, hlocation,
        FileStore.content?_eq_some_iff.mpr
          ⟨(hpath hmem).notDirectoryOnly, l ++ [name], hlocation, hnode⟩⟩
  · contradiction

end SheetReport
