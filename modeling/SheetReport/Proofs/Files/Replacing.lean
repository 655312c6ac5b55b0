import SheetReport.Proofs.Files.Saving

/-!
# Replacing what stands at the end of a path

A path that never leads up has a place, whether or not it can name a file, and the temporary file
of an output has another one beside or in it. Preparing an output creates directories on the way
and touches neither place; saving it either puts the file at its place and leaves no temporary
file, or leaves the place as it was.

Main statements: `node?_prepare` and `save_cases`.
-/

namespace SheetReport.FileStore

variable {s t : FileStore} {path : String} {dir : List String} {l l' k : Location}
  {content : FileContent}

/-- Where the steps of a path lead, if none of them leads up. -/
def outputPlace (s : FileStore) (path : String) : Location := s.start path ++ Path.steps path

/-- Where the temporary file of an output is written, if no step leads up. -/
def partialPlace (s : FileStore) (path : String) : Location := s.start path ++ partialSteps path

/-- Steps that do not lead up lead below. -/
theorem eq_append_of_follow? (hdir : ".." ∉ dir) (h : s.follow? l dir = some l') :
    l' = l ++ dir := by
  induction dir generalizing l with
  | nil => rw [List.append_nil, Option.some.inj h]
  | cons name rest ih =>
    obtain ⟨hname, hrest⟩ := not_or.mp (mt List.mem_cons.mpr hdir)
    rw [follow?] at h
    split_ifs at h
    rw [ih hrest h, step, if_neg (Ne.symm hname), List.append_assoc, List.singleton_append]

/-- The temporary file of a path that ends with a name lies in the same directory. -/
theorem partialSteps_of_concat {name : String} (hsteps : Path.steps path = dir ++ [name])
    (hname : name ≠ "..") : partialSteps path = dir ++ [Path.partialName name] := by
  have hfile : Path.fileName? path = some name := by
    rw [Path.fileName?, hsteps, List.getLast?_concat, Option.filter_some, if_pos (by simpa)]
  rw [partialSteps, hfile, hsteps, List.dropLast_concat]

/-- The temporary file of a path without steps lies where the path starts. -/
theorem partialSteps_of_nil (hsteps : Path.steps path = []) :
    partialSteps path = [Path.partialName ""] := by
  rw [partialSteps, Path.fileName?, hsteps]
  rfl

section Places

variable (hdots : ".." ∉ Path.steps path)
include hdots

/-- A path has no steps, or it ends with a name. -/
theorem steps_cases : Path.steps path = [] ∨
    ∃ dir name, Path.steps path = dir ++ [name] ∧ ".." ∉ dir ∧ name ≠ ".." := by
  rcases List.eq_nil_or_concat (Path.steps path) with hnil | ⟨dir, name, hsteps⟩
  · exact .inl hnil
  · rw [List.concat_eq_append] at hsteps
    rw [hsteps, List.mem_append, List.mem_singleton, not_or] at hdots
    exact .inr ⟨dir, name, hsteps, hdots.1, Ne.symm hdots.2⟩

/-- The way to the temporary file does not lead up. -/
theorem dots_notMem_partialSteps : ".." ∉ partialSteps path := by
  rcases steps_cases hdots with hnil | ⟨dir, name, hsteps, hdir, hname⟩
  · rw [partialSteps_of_nil hnil, List.mem_singleton]
    exact Ne.symm (Path.partialName_ne_dots "")
  · rw [partialSteps_of_concat hsteps hname, List.mem_append, List.mem_singleton, not_or]
    exact ⟨hdir, Ne.symm (Path.partialName_ne_dots name)⟩

/-- The temporary file never lies at the place of its output. -/
theorem partialPlace_ne_outputPlace (s : FileStore) : s.partialPlace path ≠ s.outputPlace path := by
  intro h
  have hequal : partialSteps path = Path.steps path := List.append_cancel_left h
  rcases steps_cases hdots with hnil | ⟨dir, name, hsteps, -, hname⟩
  · rw [partialSteps_of_nil hnil, hnil] at hequal
    contradiction
  · rw [partialSteps_of_concat hsteps hname, hsteps] at hequal
    exact Path.ne_partialName_self name (List.append_singleton_inj.mp hequal).2.symm

/-- A path leads to what stands at its place, if it can lead to such a thing. -/
theorem find?_eq_filter (s : FileStore) (hpath : path ≠ "") :
    s.find? path = (s.node? (s.outputPlace path)).filter fun node =>
      node.isDirectory || !Path.isDirectoryOnly path := by
  rw [find?, locate?, if_neg hpath, outputPlace]
  rcases steps_cases hdots with hnil | ⟨dir, name, hsteps, hdir, hname⟩
  · rw [hnil, follow?, List.append_nil, Option.bind_some]
  · rw [hsteps, follow?_concat_of_notMem _ _ hdir hname, ← List.append_assoc]
    split_ifs with hdirectory
    · rfl
    · cases hnode : s.node? (s.start path ++ dir ++ [name]) with
      | none => rfl
      | some node => exact absurd (hasDirectory_of_node? hnode) hdirectory

/-- What a path leads to is told by what stands at its place. -/
theorem find?_congr (hstart : t.start path = s.start path)
    (hnode : t.node? (s.outputPlace path) = s.node? (s.outputPlace path)) :
    t.find? path = s.find? path := by
  have hplace : t.outputPlace path = s.outputPlace path := by rw [outputPlace, hstart, outputPlace]
  by_cases hpath : path = ""
  · rw [find?, locate?, if_pos hpath, find?, locate?, if_pos hpath]
    rfl
  · rw [find?_eq_filter hdots t hpath, find?_eq_filter hdots s hpath, hplace, hnode]

end Places

section Preparing

/-- Nothing but directories is created on the way, and only where nothing stood. -/
theorem node?_makeDirectories_cases (s : FileStore) (l : Location) (dir : List String)
    (k : Location) : (s.makeDirectories l dir).1.node? k = s.node? k ∨
      s.node? k = none ∧ (s.makeDirectories l dir).1.node? k = some .directory := by
  induction dir generalizing s l with
  | nil => exact .inl rfl
  | cons name rest ih =>
    rw [makeDirectories]
    split
    · exact ih s _
    · exact .inl rfl
    · rename_i hnone
      split_ifs with hhold
      · have hput := node?_put s (step l name) .directory k
        rcases ih (s.put (step l name) .directory) (step l name) with hsame | ⟨hnode, hnew⟩
        · split_ifs at hput with hk
          · exact .inr ⟨hk.2 ▸ hnone, hsame.trans hput⟩
          · exact .inl (hsame.trans hput)
        · split_ifs at hput with hk
          · rw [hnode] at hput
            contradiction
          · exact .inr ⟨hput ▸ hnode, hnew⟩
      · exact .inl rfl

/-- Preparing an output leaves the store alone or creates directories on the way. -/
theorem fst_prepare_cases (s : FileStore) (path : String) (overwrite : Bool) :
    (s.prepare path overwrite).1 = s ∨ (s.prepare path overwrite).1 =
      (s.makeDirectories (s.start path) (Path.steps path).dropLast).1 := by
  rw [prepare]
  split_ifs
  · exact .inl rfl
  · exact .inr rfl

/-- Preparing an output keeps all files. -/
theorem keeps_prepare (s : FileStore) (path : String) (overwrite : Bool) :
    Keeps ∅ s (s.prepare path overwrite).1 := by
  rcases fst_prepare_cases s path overwrite with h | h <;> rw [h]
  · exact .refl ∅ s
  · exact keeps_makeDirectories s _ _

/-- Preparing an output creates no file. -/
theorem node?_prepare_eq_file_iff (s : FileStore) (path : String) (overwrite : Bool)
    (k : Location) (content : FileContent) :
    (s.prepare path overwrite).1.node? k = some (.file content) ↔
      s.node? k = some (.file content) := by
  refine ⟨fun hnode => ?_, (keeps_prepare s path overwrite).file k content (Set.notMem_empty k)⟩
  rcases fst_prepare_cases s path overwrite with h | h
  · rwa [h] at hnode
  · rw [h] at hnode
    rcases node?_makeDirectories_cases s (s.start path) (Path.steps path).dropLast k with
      hsame | ⟨-, hnew⟩
    · rwa [hsame] at hnode
    · exact absurd (hnew.symm.trans hnode) (by simp)

/-- Preparing an output changes nothing at its place, in it, or at that of the temporary file. -/
theorem node?_prepare (hdots : ".." ∉ Path.steps path) (s : FileStore) (overwrite : Bool)
    (hk : s.outputPlace path <+: k ∨ k = s.partialPlace path) :
    (s.prepare path overwrite).1.node? k = s.node? k := by
  rcases fst_prepare_cases s path overwrite with h | h <;> rw [h]
  rcases steps_cases hdots with hnil | ⟨dir, name, hsteps, hdir, hname⟩
  · rw [hnil]
    rfl
  · rw [hsteps, List.dropLast_concat]
    refine node?_makeDirectories hdir fun hprefix => ?_
    -- both places lie below the last directory that is created
    have hlt : (s.start path ++ dir).length < k.length := by
      rcases hk with hbelow | rfl
      · have hlength := hbelow.length_le
        simp only [outputPlace, hsteps, List.length_append, List.length_singleton] at hlength ⊢
        omega
      · simp only [partialPlace, partialSteps_of_concat hsteps hname, List.length_append,
          List.length_singleton]
        omega
    exact absurd hprefix.length_le (Nat.not_le.mpr hlt)

end Preparing

section Saving

/-- Saving a file leaves the working directory. -/
theorem current_save (s : FileStore) (path : String) (content : FileContent) :
    (s.save path content).1.current = s.current := by
  rw [save]
  split
  · rfl
  · split
    · exact current_remove s _
    · exact (current_put _ _ _).trans (current_remove s _)

variable (hdots : ".." ∉ Path.steps path)
include hdots

/-- A file is not saved and nothing changes, or it is not saved and the temporary file is gone, or
it is saved at its place in place of the temporary file. -/
theorem save_cases (s : FileStore) (content : FileContent) :
    s.save path content = (s, .error .io) ∨
      s.save path content = (s.remove (s.partialPlace path), .error .io) ∨
      Path.isDirectoryOnly path = false ∧ s.canHold (s.partialPlace path) = true ∧
        s.canHold (s.outputPlace path) = true ∧ s.save path content =
          ((s.remove (s.partialPlace path)).put (s.outputPlace path) (.file content), .ok ()) := by
  rw [save]
  split
  · exact .inl rfl
  · rename_i temporary hwritable
    obtain ⟨hfollow, htemporary⟩ := Option.filter_eq_some_iff.mp hwritable
    obtain rfl := eq_append_of_follow? (dots_notMem_partialSteps hdots) hfollow
    split
    · exact .inr (.inl rfl)
    · rename_i l htarget
      rw [target?] at htarget
      split_ifs at htarget with hfile
      obtain ⟨hlocate, hhold⟩ := Option.filter_eq_some_iff.mp htarget
      rw [locate?] at hlocate
      split_ifs at hlocate
      obtain rfl := eq_append_of_follow? hdots hlocate
      exact .inr (.inr ⟨by simpa using hfile, htemporary, hhold, rfl⟩)

/-- Saving touches nothing but the place of the output and that of the temporary file. -/
theorem node?_save_of_ne (s : FileStore) (content : FileContent) (hk : k ≠ s.outputPlace path)
    (htemporary : k ≠ s.partialPlace path) : (s.save path content).1.node? k = s.node? k := by
  have hremove : (s.remove (s.partialPlace path)).node? k = s.node? k := by
    rw [node?_remove, if_neg fun h => htemporary h.2]
  rcases save_cases hdots s content with h | h | ⟨-, -, -, h⟩ <;> rw [h]
  · exact hremove
  · rw [node?_put, if_neg fun h => hk h.2, hremove]

/-- After a file was saved it stands at its place, and there is no temporary file. -/
theorem node?_of_save_ok (s : FileStore) (content : FileContent)
    (hok : (s.save path content).2 = .ok ()) :
    Path.isDirectoryOnly path = false ∧
      (s.save path content).1.node? (s.outputPlace path) = some (.file content) ∧
      (s.save path content).1.node? (s.partialPlace path) = none := by
  rcases save_cases hdots s content with h | h | ⟨hfile, htemporary, hhold, h⟩ <;> rw [h] at hok ⊢
  · contradiction
  · contradiction
  · refine ⟨hfile, ?_, ?_⟩
    · rw [node?_put, if_pos ⟨by rw [canHold_remove, hhold], rfl⟩]
    · rw [node?_put, if_neg fun h => partialPlace_ne_outputPlace hdots s h.2, node?_remove,
        if_pos ⟨hasDirectory_of_canHold htemporary, rfl⟩]

/-- If a file was not saved, its place is as it was, and the place of the temporary file is as it
was or free. -/
theorem node?_of_save_error (s : FileStore) (content : FileContent) {error : WorkbookError}
    (herror : (s.save path content).2 = .error error) :
    (s.save path content).1.node? (s.outputPlace path) = s.node? (s.outputPlace path) ∧
      ((s.save path content).1.node? (s.partialPlace path) = s.node? (s.partialPlace path) ∨
        (s.save path content).1.node? (s.partialPlace path) = none) := by
  rcases save_cases hdots s content with h | h | ⟨-, -, -, h⟩ <;> rw [h] at herror ⊢
  · exact ⟨rfl, .inl rfl⟩
  · refine ⟨?_, ?_⟩
    · rw [node?_remove, if_neg fun h => partialPlace_ne_outputPlace hdots s h.2.symm]
    · rw [node?_remove]
      split_ifs
      · exact .inr rfl
      · exact .inl rfl
  · contradiction

end Saving

end SheetReport.FileStore
