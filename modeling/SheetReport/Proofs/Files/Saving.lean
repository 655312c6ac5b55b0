import SheetReport.Proofs.Files.Store

/-!
# Preparing and saving outputs

Each step on a store changes the locations that it names: creating directories adds directories on
the way and is done once for all, and saving a file touches its place and the temporary file
beside it. Directories never go away, and neither do files that are not temporary.
-/

namespace SheetReport.FileStore

open SheetReport.Path (NamesFile)

variable {s t : FileStore} {l k : Location} {node : FileNode} {path name : String}
  {dir : List String}

section Directories

/-- Where nothing stands, what is put there keeps all files. -/
theorem keeps_put_of_none (h : s.node? l = none) : Keeps ∅ s (s.put l node) where
  current_eq := current_put s l node
  directory := (keeps_put s l node).directory
  file k content _ hnode := (keeps_put s l node).file k content
    (by rintro rfl; simp [h] at hnode) hnode

/-- Creating directories keeps all files. -/
theorem keeps_makeDirectories (s : FileStore) (l : Location) (dir : List String) :
    Keeps ∅ s (s.makeDirectories l dir).1 := by
  induction dir generalizing s l with
  | nil => exact .refl ∅ s
  | cons name rest ih =>
    rw [makeDirectories]
    split
    · exact ih s _
    · exact .refl ∅ s
    · split_ifs
      · exact (keeps_put_of_none ‹_›).trans (ih _ _)
      · exact .refl ∅ s

/-- Only on the way to the last directory anything new is created. -/
theorem node?_makeDirectories (hdir : ".." ∉ dir) (hk : ¬ k <+: l ++ dir) :
    (s.makeDirectories l dir).1.node? k = s.node? k := by
  induction dir generalizing s l with
  | nil => rfl
  | cons name rest ih =>
    obtain ⟨hname, hrest⟩ := not_or.mp (mt List.mem_cons.mpr hdir)
    have hpath : l ++ name :: rest = l ++ [name] ++ rest := by simp
    have hne : k ≠ l ++ [name] := by
      rintro rfl
      exact hk (hpath ▸ List.prefix_append _ _)
    rw [makeDirectories, step, if_neg (Ne.symm hname)]
    rw [hpath] at hk
    split
    · exact ih hrest hk
    · rfl
    · split_ifs
      · rw [ih hrest hk, node?_put, if_neg fun h => hne h.2]
      · rfl

/-- Below the last directory nothing is created. -/
theorem node?_makeDirectories_concat (hdir : ".." ∉ dir) (name : String) :
    (s.makeDirectories l dir).1.node? (l ++ dir ++ [name]) = s.node? (l ++ dir ++ [name]) := by
  refine node?_makeDirectories hdir fun hprefix => ?_
  have hlength := hprefix.length_le
  rw [List.length_append, List.length_singleton] at hlength
  omega

/-- Directories that exist are not created again. -/
theorem makeDirectories_eq_self (hdir : ".." ∉ dir) (h : s.hasDirectory (l ++ dir) = true) :
    s.makeDirectories l dir = (s, true) := by
  induction dir generalizing l with
  | nil => rfl
  | cons name rest ih =>
    obtain ⟨hname, hrest⟩ := not_or.mp (mt List.mem_cons.mpr hdir)
    have hpath : l ++ name :: rest = l ++ [name] ++ rest := by simp
    rw [hpath] at h
    rw [makeDirectories, step, if_neg (Ne.symm hname),
      hasDirectory_iff.mp (hasDirectory_of_append h)]
    exact ih hrest h

/-- If nothing is in the way, the directories exist afterwards. -/
theorem hasDirectory_of_makeDirectories (hdir : ".." ∉ dir) (hl : s.hasDirectory l = true)
    (h : (s.makeDirectories l dir).2 = true) :
    (s.makeDirectories l dir).1.hasDirectory (l ++ dir) = true := by
  induction dir generalizing s l with
  | nil => rwa [List.append_nil]
  | cons name rest ih =>
    obtain ⟨hname, hrest⟩ := not_or.mp (mt List.mem_cons.mpr hdir)
    have hpath : l ++ name :: rest = l ++ [name] ++ rest := by simp
    rw [makeDirectories, step, if_neg (Ne.symm hname)] at h ⊢
    rw [hpath]
    split at h
    · exact ih hrest (hasDirectory_iff.mpr ‹_›) h
    · exact absurd h Bool.false_ne_true
    · split_ifs at h ⊢ with hhold
      refine ih hrest ?_ h
      rw [hasDirectory_iff, node?_put, if_pos ⟨hhold, rfl⟩]

/-- A step to an existing directory creates nothing. -/
theorem makeDirectories_cons_of_hasDirectory {rest : List String}
    (h : s.hasDirectory (step l name) = true) :
    s.makeDirectories l (name :: rest) = s.makeDirectories (step l name) rest := by
  rw [makeDirectories, hasDirectory_iff.mp h]

/-- Directories are created once for all: what was in the way the first time is so again. -/
theorem makeDirectories_makeDirectories (s : FileStore) (l : Location) (dir : List String) :
    (s.makeDirectories l dir).1.makeDirectories l dir = s.makeDirectories l dir := by
  induction dir generalizing s l with
  | nil => rfl
  | cons name rest ih =>
    -- once the first step leads to a directory it does so for good, and the rest is done by `ih`
    have hsame (u : FileStore) (hu : u.hasDirectory (step l name) = true) :
        (u.makeDirectories (step l name) rest).1.makeDirectories l (name :: rest) =
          u.makeDirectories (step l name) rest := by
      rw [makeDirectories_cons_of_hasDirectory
        ((keeps_makeDirectories u _ rest).directory _ hu), ih]
    cases hnode : s.node? (step l name) with
    | some node =>
      cases node with
      | directory =>
        rw [makeDirectories_cons_of_hasDirectory (hasDirectory_iff.mpr hnode)]
        exact hsame s (hasDirectory_iff.mpr hnode)
      | file content => simp only [makeDirectories, hnode]
    | none =>
      by_cases hhold : s.canHold (step l name) = true
      · have hput : (s.put (step l name) .directory).hasDirectory (step l name) = true := by
          rw [hasDirectory_iff, node?_put, if_pos ⟨hhold, rfl⟩]
        have hmake : s.makeDirectories l (name :: rest) =
            (s.put (step l name) .directory).makeDirectories (step l name) rest := by
          simp only [makeDirectories, hnode, if_pos hhold]
        rw [hmake]
        exact hsame _ hput
      · simp only [makeDirectories, hnode, if_neg hhold]

/-- On the way to a directory nothing is left to create: it exists, or something is in the
way. -/
def IsPrepared (s : FileStore) (l : Location) (dir : List String) : Prop :=
  s.makeDirectories l dir = (s, s.hasDirectory (l ++ dir))

/-- Before an existing directory nothing is left to create. -/
theorem isPrepared_of_hasDirectory (hdots : ".." ∉ dir) (h : s.hasDirectory (l ++ dir) = true) :
    s.IsPrepared l dir := by
  rw [IsPrepared, makeDirectories_eq_self hdots h, h]

/-- After directories were created, nothing is left to create. -/
theorem isPrepared_makeDirectories (hdots : ".." ∉ dir) (hl : s.hasDirectory l = true) :
    (s.makeDirectories l dir).1.IsPrepared l dir := by
  rw [IsPrepared, makeDirectories_makeDirectories]
  refine Prod.ext rfl (Bool.eq_iff_iff.mpr ⟨fun h => ?_, fun h => ?_⟩)
  · exact hasDirectory_of_makeDirectories hdots hl h
  · have htwice := makeDirectories_makeDirectories s l dir
    rw [makeDirectories_eq_self hdots h] at htwice
    rw [← htwice]

end Directories

section Preparing

variable {d : Location} (h : NamesFile path dir name) (hdots : ".." ∉ dir)
include h hdots

/-- Where nothing is left to create, preparing an output only tells whether it can be saved. -/
theorem prepare_eq (hd : s.start path ++ dir = d) (hprepared : s.IsPrepared (s.start path) dir) :
    s.prepare path false =
      (s, if (s.node? (d ++ [name])).isSome then .error (.outputExists path)
        else if s.hasDirectory d then .ok () else .error .io) := by
  subst hd
  rw [prepare, contains_eq h hdots, h.steps_eq, List.dropLast_concat, hprepared, Bool.not_false,
    Bool.and_true]
  dsimp only
  split_ifs <;> rfl

/-- An output is prepared once for all. -/
theorem prepare_makeDirectories :
    (s.makeDirectories (s.start path) dir).1.prepare path false = s.prepare path false := by
  have hkeeps := keeps_makeDirectories s (s.start path) dir
  have hcontains : (s.makeDirectories (s.start path) dir).1.contains path = s.contains path := by
    rw [contains_eq h hdots, contains_eq h hdots, hkeeps.start_eq,
      node?_makeDirectories_concat hdots]
  by_cases hold : s.contains path = true
  · have hdirectory : s.hasDirectory (s.start path ++ dir) = true := by
      rw [contains_eq h hdots] at hold
      obtain ⟨node, hnode⟩ := Option.isSome_iff_exists.mp hold
      exact hasDirectory_of_node? hnode
    rw [makeDirectories_eq_self hdots hdirectory]
  · rw [prepare, prepare, hcontains, hkeeps.start_eq, h.steps_eq, List.dropLast_concat,
      makeDirectories_makeDirectories]
    simp only [hold, Bool.false_and, Bool.false_eq_true, if_false]

end Preparing

/-- A file that was saved is found under its path. -/
theorem content?_of_save {content : FileContent} (h : s.save path content = (t, .ok ())) :
    t.content? path = some content := by
  unfold save at h
  split at h
  · cases congrArg Prod.snd h
  · rename_i temporary _
    split at h
    · cases congrArg Prod.snd h
    · rename_i l htarget
      obtain rfl : (s.remove temporary).put l (.file content) = t := congrArg Prod.fst h
      unfold target? at htarget
      split_ifs at htarget with hfile
      obtain ⟨hlocate, hhold⟩ := Option.filter_eq_some_iff.mp htarget
      have hkeeps := ((keeps_remove s temporary).mono (Set.subset_univ _)).trans
        ((keeps_put (s.remove temporary) l (.file content)).mono (Set.subset_univ _))
      refine content?_eq_some_iff.mpr ⟨by simpa using hfile, l, hkeeps.locate? hlocate, ?_⟩
      rw [node?_put, if_pos ⟨by rw [canHold_remove]; exact hhold, rfl⟩]

section Saving

variable {d : Location} {content : FileContent} (h : NamesFile path dir name) (hdots : ".." ∉ dir)
  (hd : s.start path ++ dir = d)
include h hdots hd

/-- A file is saved if its place and that of the temporary file can hold it; the temporary file
goes whether or not it can be moved. -/
theorem save_eq : s.save path content =
    if s.canHold (d ++ [Path.partialName name]) then
      let removed := s.remove (d ++ [Path.partialName name])
      if s.canHold (d ++ [name]) then (removed.put (d ++ [name]) (.file content), .ok ())
      else (removed, .error .io)
    else (s, .error .io) := by
  subst hd
  rw [save, writable?_partialSteps h hdots, target?_eq h hdots]
  split_ifs <;> rfl

/-- Whether a file is saved is told by its place and that of the temporary file. -/
theorem snd_save : (s.save path content).2 =
    if s.canHold (d ++ [Path.partialName name]) && s.canHold (d ++ [name]) then .ok ()
    else .error .io := by
  rw [save_eq h hdots hd]
  cases s.canHold (d ++ [Path.partialName name]) <;> cases s.canHold (d ++ [name]) <;> rfl

/-- What stands where after a file was saved. -/
theorem node?_save (k : Location) : (s.save path content).1.node? k =
    if s.canHold (d ++ [Path.partialName name]) then
      if s.canHold (d ++ [name]) ∧ k = d ++ [name] then some (.file content)
      else if k = d ++ [Path.partialName name] then none
      else s.node? k
    else s.node? k := by
  rw [save_eq h hdots hd]
  by_cases htemporary : s.canHold (d ++ [Path.partialName name]) = true
  · have hremove : (s.remove (d ++ [Path.partialName name])).node? k =
        if k = d ++ [Path.partialName name] then none else s.node? k := by
      simp only [node?_remove, hasDirectory_of_canHold htemporary, true_and]
    by_cases hplace : s.canHold (d ++ [name]) = true
    · simp only [htemporary, hplace, if_true, node?_put, canHold_remove, true_and, hremove]
    · simp only [htemporary, hplace, if_true, if_false, false_and, hremove, Bool.false_eq_true]
  · simp only [if_neg htemporary]

/-- Saving a file where nothing stands keeps all files that are not temporary. -/
theorem keeps_save (hnone : s.node? (d ++ [name]) = none) :
    Keeps {d ++ [Path.partialName name]} s (s.save path content).1 := by
  rw [save_eq h hdots hd]
  dsimp only
  have hremove := keeps_remove s (d ++ [Path.partialName name])
  split_ifs
  · refine hremove.trans ((keeps_put_of_none ?_).mono (Set.empty_subset _))
    rw [node?_remove, hnone, ite_self]
  · exact hremove
  · exact .refl _ s

/-- A file that was saved stands at its place. -/
theorem node?_of_save_eq_ok (hok : (s.save path content).2 = .ok ()) :
    (s.save path content).1.node? (d ++ [name]) = some (.file content) := by
  rw [snd_save h hdots hd] at hok
  split_ifs at hok with hhold
  obtain ⟨htemporary, hplace⟩ := Bool.and_eq_true_iff.mp hhold
  rw [node?_save h hdots hd, if_pos htemporary, if_pos ⟨hplace, rfl⟩]

/-- Where a file was not saved, all is as it was. -/
theorem node?_of_save_eq_error {error : WorkbookError}
    (herror : (s.save path content).2 = .error error) :
    (s.save path content).1.node? (d ++ [name]) = s.node? (d ++ [name]) := by
  have hne : d ++ [name] ≠ d ++ [Path.partialName name] := fun h =>
    Path.ne_partialName_self name (List.append_singleton_inj.mp h).2
  rw [snd_save h hdots hd] at herror
  split_ifs at herror with hhold
  rw [node?_save h hdots hd]
  split_ifs with htemporary hplace
  · exact absurd (Bool.and_eq_true_iff.mpr ⟨htemporary, hplace.1⟩) hhold
  · rfl
  · rfl

/-- Saving a file is told by its directory, its place and that of the temporary file. -/
theorem save_congr (hd' : t.start path ++ dir = d) (hdirectory : s.hasDirectory d = t.hasDirectory d)
    (hplace : s.node? (d ++ [name]) = t.node? (d ++ [name]))
    (htemporary : s.node? (d ++ [Path.partialName name]) = t.node? (d ++ [Path.partialName name])) :
    (s.save path content).2 = (t.save path content).2 ∧
      (s.save path content).1.node? (d ++ [name]) =
        (t.save path content).1.node? (d ++ [name]) ∧
      (s.save path content).1.node? (d ++ [Path.partialName name]) =
        (t.save path content).1.node? (d ++ [Path.partialName name]) := by
  have hholdPlace := canHold_congr hdirectory hplace
  have hholdTemporary := canHold_congr hdirectory htemporary
  refine ⟨?_, ?_, ?_⟩
  · rw [snd_save h hdots hd, snd_save h hdots hd', hholdPlace, hholdTemporary]
  · rw [node?_save h hdots hd, node?_save h hdots hd', hholdPlace, hholdTemporary, hplace]
  · rw [node?_save h hdots hd, node?_save h hdots hd', hholdPlace, hholdTemporary, htemporary]

end Saving

end SheetReport.FileStore
