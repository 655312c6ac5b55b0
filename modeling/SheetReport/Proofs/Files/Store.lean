import Mathlib.Data.List.Induction
import Mathlib.Data.Set.Basic
import SheetReport.Files.Store
import SheetReport.Proofs.Files.Path

/-!
# What paths lead to in a store

A store is read only at the locations that its paths lead to. Everything stands in a directory, so
a path that leads down leads to what stands under its name, whether or not the directories on the
way were looked at. A step that keeps all directories keeps where paths lead, and a step that keeps
a file keeps the content under every path to it.
-/

namespace SheetReport.FileStore

open SheetReport.Path (NamesFile)

variable {s t : FileStore} {l k : Location} {node : FileNode} {path name : String}
  {dir : List String}

/-- A store is determined by what stands where and the working directory. -/
theorem ext_node? (hcurrent : s.current = t.current) (h : ∀ l, s.node? l = t.node? l) : s = t := by
  obtain ⟨nodes, current, _, _, _⟩ := s
  obtain ⟨nodes', current', _, _, _⟩ := t
  obtain rfl : nodes = nodes' := OrderedMap.ext h
  obtain rfl : current = current' := hcurrent
  rfl

/-- Everything stands in a directory. -/
theorem hasDirectory_of_node? (h : s.node? (l ++ [name]) = some node) : s.hasDirectory l = true :=
  hasDirectory_iff.mpr (s.parent_mem l name node h).1

/-- The directories on the way to a directory exist. -/
theorem hasDirectory_of_append {rest : List String} (h : s.hasDirectory (l ++ rest) = true) :
    s.hasDirectory l = true := by
  induction rest using List.reverseRecOn with
  | nil => rwa [List.append_nil] at h
  | append_singleton rest name ih =>
    rw [← List.append_assoc, hasDirectory_iff] at h
    exact ih (hasDirectory_of_node? h)

/-- Paths start at directories. -/
theorem hasDirectory_start (s : FileStore) (path : String) : s.hasDirectory (s.start path) = true := by
  rw [hasDirectory_iff, start]
  split_ifs
  · exact s.root_mem
  · exact s.current_mem

section Nodes

/-- What is put at a location stands there, and everything else stays. -/
theorem node?_put (s : FileStore) (l : Location) (node : FileNode) (k : Location) :
    (s.put l node).node? k = if s.canHold l = true ∧ k = l then some node else s.node? k := by
  unfold put
  split_ifs with hhold heq heq
  · obtain ⟨-, rfl⟩ := heq
    exact OrderedMap.get?_insert_self _ _ _
  · exact OrderedMap.get?_insert_of_ne _ _ fun h => heq ⟨hhold, h⟩
  · exact absurd heq.1 hhold
  · rfl

/-- A file that is removed is gone, and everything else stays. -/
theorem node?_remove (s : FileStore) (l k : Location) :
    (s.remove l).node? k = if s.hasDirectory l = false ∧ k = l then none else s.node? k := by
  unfold remove
  split_ifs with hdirectory heq heq
  · exact absurd heq.1 (by simp [hdirectory])
  · rfl
  · obtain ⟨-, rfl⟩ := heq
    exact OrderedMap.get?_erase_self _ _
  · exact OrderedMap.get?_erase_of_ne _ fun h => heq ⟨by simpa using hdirectory, h⟩

/-- Removing a file leaves the directories. -/
@[simp] theorem hasDirectory_remove (s : FileStore) (l k : Location) :
    (s.remove l).hasDirectory k = s.hasDirectory k := by
  rw [hasDirectory, node?_remove]
  split_ifs with h
  · obtain ⟨hnot, rfl⟩ := h
    exact hnot.symm
  · rfl

/-- Removing a file leaves the locations that can hold something. -/
@[simp] theorem canHold_remove (s : FileStore) (l k : Location) :
    (s.remove l).canHold k = s.canHold k := by
  simp only [canHold, hasDirectory_remove]

/-- Putting a node leaves the current directory. -/
@[simp] theorem current_put (s : FileStore) (l : Location) (node : FileNode) :
    (s.put l node).current = s.current := by
  unfold put
  split_ifs <;> rfl

/-- Removing a node leaves the current directory. -/
@[simp] theorem current_remove (s : FileStore) (l : Location) :
    (s.remove l).current = s.current := by
  unfold remove
  split_ifs <;> rfl

/-- A location that can hold something is no directory. -/
theorem hasDirectory_of_canHold (h : s.canHold l = true) : s.hasDirectory l = false := by
  rw [canHold, Bool.and_eq_true, Bool.not_eq_true'] at h
  exact h.2

/-- Whether a location can hold something is told by its directory and what stands there. -/
theorem canHold_congr (hdir : s.hasDirectory l = t.hasDirectory l)
    (hnode : s.node? (l ++ [name]) = t.node? (l ++ [name])) :
    s.canHold (l ++ [name]) = t.canHold (l ++ [name]) := by
  have hself : s.hasDirectory (l ++ [name]) = t.hasDirectory (l ++ [name]) := by
    rw [hasDirectory, hnode, hasDirectory]
  simp only [canHold, List.getLast?_concat, List.dropLast_concat, hdir, hself]

end Nodes

section Locations

/-- A path has content if it leads to a file. -/
theorem content?_eq_some_iff_find? {content : FileContent} :
    s.content? path = some content ↔ s.find? path = some (.file content) := by
  rw [content?]
  cases s.find? path with
  | none => simp
  | some node => cases node <;> simp

/-- The last step of some steps leaves the directory that the others lead to. -/
theorem follow?_concat (s : FileStore) (l : Location) (dir : List String) (name : String) :
    s.follow? l (dir ++ [name]) =
      (s.follow? l dir).bind fun d => if s.hasDirectory d then some (step d name) else none := by
  induction dir generalizing l with
  | nil => rfl
  | cons first rest ih =>
    simp only [List.cons_append, follow?]
    split_ifs
    · exact ih _
    · rfl

/-- Steps down lead to what lies below, if the directories on the way exist. -/
theorem follow?_concat_of_notMem (s : FileStore) (l : Location) (hdir : ".." ∉ dir)
    (hname : name ≠ "..") :
    s.follow? l (dir ++ [name]) =
      if s.hasDirectory (l ++ dir) then some (l ++ dir ++ [name]) else none := by
  induction dir generalizing l with
  | nil => simp [follow?, step, hname]
  | cons first rest ih =>
    obtain ⟨hfirst, hrest⟩ := not_or.mp (mt List.mem_cons.mpr hdir)
    have hpath : l ++ first :: rest = l ++ [first] ++ rest := by simp
    have hstep : step l first = l ++ [first] := if_neg (Ne.symm hfirst)
    rw [List.cons_append, follow?, hstep, ih (l ++ [first]) hrest, hpath]
    by_cases hdirectory : s.hasDirectory (l ++ [first] ++ rest) = true
    · have hl := hasDirectory_of_append (hasDirectory_of_append hdirectory)
      simp only [hl, hdirectory, if_true]
    · simp only [hdirectory, if_false, ite_self, Bool.false_eq_true]

/-- The temporary file lies beside the file that a path leads to. -/
theorem partialSteps_eq (h : NamesFile path dir name) :
    partialSteps path = dir ++ [Path.partialName name] := by
  rw [partialSteps, h.fileName?_eq, h.steps_eq, List.dropLast_concat]

/-- A path to a file leads into the directory that the steps before the name lead to. -/
theorem locate?_eq (h : NamesFile path dir name) :
    s.locate? path = (s.follow? (s.start path) dir).bind fun d =>
      if s.hasDirectory d then some (d ++ [name]) else none := by
  rw [locate?, if_neg h.ne_empty, h.steps_eq, follow?_concat]
  simp only [step, if_neg h.name_ne]

/-- A location is kept if it can hold something, which takes a directory. -/
theorem filter_canHold : (if s.hasDirectory l then some (l ++ [name]) else none).filter s.canHold =
    if s.canHold (l ++ [name]) then some (l ++ [name]) else none := by
  by_cases hhold : s.canHold (l ++ [name]) = true
  · have hdirectory : s.hasDirectory l = true := by
      simp only [canHold, List.dropLast_concat, Bool.and_eq_true] at hhold
      exact hhold.1.2
    rw [if_pos hdirectory, if_pos hhold]
    exact Option.filter_eq_some_iff.mpr ⟨rfl, hhold⟩
  · rw [if_neg hhold]
    refine Option.filter_eq_none_iff.mpr fun l' hl' => ?_
    split_ifs at hl' with hdirectory
    rwa [← Option.some_inj.mp hl']

variable (h : NamesFile path dir name) (hdir : ".." ∉ dir)
include h hdir

/-- A path that leads down leads to its name below the start. -/
theorem locate?_eq_of_notMem : s.locate? path =
    if s.hasDirectory (s.start path ++ dir) then some (s.start path ++ dir ++ [name]) else none := by
  rw [locate?, if_neg h.ne_empty, h.steps_eq, follow?_concat_of_notMem _ _ hdir h.name_ne]

/-- A path that leads down leads to what stands under its name. -/
theorem find?_eq : s.find? path = s.node? (s.start path ++ dir ++ [name]) := by
  have hall (found : Option FileNode) :
      (found.filter fun node => node.isDirectory || !Path.isDirectoryOnly path) = found := by
    cases found <;> simp [h.notDirectoryOnly]
  rw [find?, hall, locate?_eq_of_notMem h hdir]
  split_ifs with hdirectory
  · rfl
  · cases hnode : s.node? (s.start path ++ dir ++ [name]) with
    | none => rfl
    | some node => exact absurd (hasDirectory_of_node? hnode) hdirectory

/-- A path that leads down has the content of what stands under its name. -/
theorem content?_eq_some_iff_node? {content : FileContent} : s.content? path = some content ↔
    s.node? (s.start path ++ dir ++ [name]) = some (.file content) := by
  rw [content?_eq_some_iff_find?, find?_eq h hdir]

/-- A path that leads down leads to something if something stands under its name. -/
theorem contains_eq : s.contains path = (s.node? (s.start path ++ dir ++ [name])).isSome := by
  rw [contains, find?_eq h hdir]

/-- A file can be moved to where a path leads down if the location can hold it. -/
theorem target?_eq : s.target? path =
    if s.canHold (s.start path ++ dir ++ [name]) then some (s.start path ++ dir ++ [name])
    else none := by
  rw [target?, h.notDirectoryOnly, if_neg Bool.false_ne_true, locate?_eq_of_notMem h hdir]
  exact filter_canHold

/-- A temporary file can be written beside where a path leads down if its location can hold it. -/
theorem writable?_partialSteps : s.writable? path (partialSteps path) =
    if s.canHold (s.start path ++ dir ++ [Path.partialName name]) then
      some (s.start path ++ dir ++ [Path.partialName name])
    else none := by
  rw [writable?, partialSteps_eq h, follow?_concat_of_notMem _ _ hdir (Path.partialName_ne_dots name)]
  exact filter_canHold

end Locations

/-- A path has content if it leads to a file, and does not only lead to directories. -/
theorem content?_eq_some_iff {content : FileContent} : s.content? path = some content ↔
    Path.isDirectoryOnly path = false ∧
      ∃ l, s.locate? path = some l ∧ s.node? l = some (.file content) := by
  rw [content?_eq_some_iff_find?, find?, Option.filter_eq_some_iff, Option.bind_eq_some_iff]
  simp only [FileNode.isDirectory, Bool.false_or, Bool.not_eq_true', and_comm]

section Keeping

/-- What a step leaves as it was: the working directory, every directory and every file that does
not lie at a temporary location. -/
structure Keeps (temporary : Set Location) (s t : FileStore) : Prop where
  current_eq : t.current = s.current
  directory : ∀ l, s.hasDirectory l = true → t.hasDirectory l = true
  file : ∀ l content, l ∉ temporary → s.node? l = some (.file content) →
    t.node? l = some (.file content)

namespace Keeps

variable {temporary : Set Location} {u : FileStore}

/-- A store is as it was. -/
theorem refl (temporary : Set Location) (s : FileStore) : Keeps temporary s s :=
  ⟨rfl, fun _ h => h, fun _ _ _ h => h⟩

/-- What two steps keep is kept by both together. -/
theorem trans (hst : Keeps temporary s t) (htu : Keeps temporary t u) : Keeps temporary s u where
  current_eq := htu.current_eq.trans hst.current_eq
  directory l h := htu.directory l (hst.directory l h)
  file l content hl h := htu.file l content hl (hst.file l content hl h)

/-- With fewer locations that do not count more is kept. -/
theorem mono {temporary' : Set Location} (h : Keeps temporary s t)
    (hsubset : temporary ⊆ temporary') : Keeps temporary' s t :=
  { h with file := fun l content hl => h.file l content fun hmem => hl (hsubset hmem) }

/-- Paths start where they did. -/
theorem start_eq (h : Keeps temporary s t) (path : String) : t.start path = s.start path := by
  rw [start, start, h.current_eq]

/-- Steps lead where they did. -/
theorem follow? (h : Keeps temporary s t) {steps : List String} {l l' : Location}
    (hfollow : s.follow? l steps = some l') : t.follow? l steps = some l' := by
  induction steps generalizing l with
  | nil => exact hfollow
  | cons name rest ih =>
    simp only [FileStore.follow?] at hfollow ⊢
    split_ifs at hfollow with hdirectory
    rw [if_pos (h.directory l hdirectory)]
    exact ih hfollow

/-- Paths lead where they did. -/
theorem locate? (h : Keeps temporary s t) {path : String} {l : Location}
    (hlocate : s.locate? path = some l) : t.locate? path = some l := by
  unfold FileStore.locate? at hlocate ⊢
  split_ifs at hlocate ⊢
  rw [h.start_eq]
  exact h.follow? hlocate

/-- The file that a path leads to has the content that it had, if it is not temporary. -/
theorem content? (h : Keeps temporary s t) {path : String} {content : FileContent}
    (hcontent : s.content? path = some content)
    (hl : ∀ l, s.locate? path = some l → l ∉ temporary) : t.content? path = some content := by
  obtain ⟨hfile, l, hlocate, hnode⟩ := content?_eq_some_iff.mp hcontent
  exact content?_eq_some_iff.mpr
    ⟨hfile, l, h.locate? hlocate, h.file l content (hl l hlocate) hnode⟩

end Keeps

/-- What is put at a location keeps all files elsewhere. -/
theorem keeps_put (s : FileStore) (l : Location) (node : FileNode) : Keeps {l} s (s.put l node) where
  current_eq := current_put s l node
  directory k hk := by
    rw [hasDirectory_iff] at hk ⊢
    rw [node?_put, if_neg, hk]
    rintro ⟨hhold, rfl⟩
    obtain ⟨-, -, -, -, -, hnot⟩ := canHold_iff.mp hhold
    exact hnot hk
  file k content hk hnode := by rw [node?_put, if_neg fun h => hk h.2, hnode]

/-- A file that is removed keeps all files elsewhere. -/
theorem keeps_remove (s : FileStore) (l : Location) : Keeps {l} s (s.remove l) where
  current_eq := current_remove s l
  directory k hk := by
    have hnode := hasDirectory_iff.mp hk
    rw [hasDirectory_iff, node?_remove, if_neg, hnode]
    rintro ⟨hnot, rfl⟩
    exact absurd hk (by simp [hnot])
  file k content hk hnode := by rw [node?_remove, if_neg fun h => hk h.2, hnode]

end Keeping

end SheetReport.FileStore
