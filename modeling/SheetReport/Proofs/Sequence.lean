/-!
# A step that can fail, run over a list

The results of a run are the results of its steps in order. A run fails exactly when some step
fails, and its error is one of theirs.
-/

namespace SheetReport

variable {α β ε : Type}

/-- A stage after another succeeds exactly when both do. -/
theorem bind_eq_ok_iff {x : Except ε α} {f : α → Except ε β} {b : β} :
    x >>= f = .ok b ↔ ∃ a, x = .ok a ∧ f a = .ok b := by
  cases x <;> simp [bind, Except.bind]

/-- A stage after another fails when the first fails or the second does. -/
theorem bind_eq_error_iff {x : Except ε α} {f : α → Except ε β} {e : ε} :
    x >>= f = .error e ↔ x = .error e ∨ ∃ a, x = .ok a ∧ f a = .error e := by
  cases x <;> simp [bind, Except.bind]

/-- A changed result succeeds exactly when the result does. -/
theorem map_eq_ok_iff {x : Except ε α} {f : α → β} {b : β} :
    x.map f = .ok b ↔ ∃ a, x = .ok a ∧ f a = b := by
  cases x <;> simp [Except.map]

/-- A changed result fails with the error of the result. -/
theorem map_eq_error_iff {x : Except ε α} {f : α → β} {e : ε} :
    x.map f = .error e ↔ x = .error e := by
  cases x <;> simp [Except.map]

/-- There is an error exactly when there is no result. -/
theorem exists_eq_error_iff {x : Except ε α} : (∃ e, x = .error e) ↔ ¬ ∃ a, x = .ok a := by
  cases x <;> simp

/-- What is there as an option is the result. -/
theorem eq_ok_of_toOption {x : Except ε α} {a : α} (h : x.toOption = some a) : x = .ok a := by
  cases x <;> simp_all [Except.toOption]

/-- A changed error does not change when a result is there. -/
theorem mapError_eq_ok_iff {δ : Type} {x : Except ε α} {f : ε → δ} {a : α} :
    x.mapError f = .ok a ↔ x = .ok a := by
  cases x with
  | ok value =>
    change Except.ok value = .ok a ↔ Except.ok value = .ok a
    simp only [Except.ok.injEq]
  | error e =>
    change Except.error (f e) = .ok a ↔ Except.error e = .ok a
    simp only [reduceCtorEq]

/-- The results of a run are the results of its steps in order. -/
theorem mapM_eq_ok_iff {f : α → Except ε β} {l : List α} {out : List β} :
    l.mapM f = .ok out ↔ l.map f = out.map .ok := by
  induction l generalizing out with
  | nil => simp [pure, Except.pure, eq_comm]
  | cons a rest ih =>
    rw [List.mapM_cons, bind_eq_ok_iff]
    simp only [bind_eq_ok_iff, ih, pure, Except.pure, Except.ok.injEq]
    constructor
    · intro hex
      obtain ⟨b, hb, bs, hbs, rfl⟩ := hex
      simp [hb, hbs]
    · intro h
      cases out with
      | nil => simp at h
      | cons b bs =>
        simp only [List.map_cons, List.cons.injEq] at h
        exact ⟨b, h.1, bs, h.2, rfl⟩

/-- Every result of a run is the result of a step, and every step has its result. -/
theorem mem_of_mapM_eq_ok {f : α → Except ε β} {l : List α} {out : List β}
    (h : l.mapM f = .ok out) (b : β) : b ∈ out ↔ ∃ a ∈ l, f a = .ok b := by
  have hmem : Except.ok b ∈ l.map f ↔ Except.ok b ∈ out.map (Except.ok (ε := ε)) := by
    rw [mapM_eq_ok_iff.mp h]
  simpa using hmem.symm

/-- A run of steps with changed results is the run with all results changed. -/
theorem mapM_map_eq {γ : Type} {f : α → Except ε β} {p : β → γ} {l : List α} :
    (l.mapM fun a => (f a).map p) = (l.mapM f).map (List.map p) := by
  induction l with
  | nil => rfl
  | cons a rest ih =>
    rw [List.mapM_cons, List.mapM_cons, ih]
    cases f a with
    | error e => rfl
    | ok b => cases rest.mapM f <;> rfl

/-- Every result of a run without errors to tell is the result of a step, and every step has its
result. -/
theorem mem_of_mapM_eq_some {f : α → Option β} {l : List α} {out : List β}
    (h : l.mapM f = some out) (b : β) : b ∈ out ↔ ∃ a ∈ l, f a = some b := by
  induction l generalizing out with
  | nil =>
    obtain rfl := Option.some.inj h
    simp
  | cons a rest ih =>
    rw [List.mapM_cons] at h
    obtain ⟨b', hb', h⟩ := Option.bind_eq_some_iff.mp h
    obtain ⟨bs, hbs, h⟩ := Option.bind_eq_some_iff.mp h
    obtain rfl := Option.some.inj h
    simp only [List.mem_cons, exists_eq_or_imp, ih hbs, hb', Option.some.injEq, eq_comm (a := b)]

/-- Every step of a run that succeeds has a result. -/
theorem exists_mem_of_mapM_eq_some {f : α → Option β} {l : List α} {out : List β}
    (h : l.mapM f = some out) {a : α} (ha : a ∈ l) : ∃ b ∈ out, f a = some b := by
  induction l generalizing out with
  | nil => contradiction
  | cons a' rest ih =>
    rw [List.mapM_cons] at h
    obtain ⟨b, hb, h⟩ := Option.bind_eq_some_iff.mp h
    obtain ⟨bs, hbs, h⟩ := Option.bind_eq_some_iff.mp h
    obtain rfl := Option.some.inj h
    rcases List.mem_cons.mp ha with rfl | ha
    · exact ⟨b, List.mem_cons_self, hb⟩
    · obtain ⟨b', hb', hstep⟩ := ih hbs ha
      exact ⟨b', List.mem_cons_of_mem _ hb', hstep⟩

/-- A run whose steps all have a result gives these results. -/
theorem mapM_eq_some_map {f : α → Option β} {g : α → β} {l : List α}
    (h : ∀ a ∈ l, f a = some (g a)) : l.mapM f = some (l.map g) := by
  induction l with
  | nil => rfl
  | cons a rest ih =>
    obtain ⟨ha, hrest⟩ := List.forall_mem_cons.mp h
    rw [List.mapM_cons, ha, ih hrest]
    rfl

/-- What agrees for a step and its result agrees for a run and its results. -/
theorem map_eq_of_mapM_eq_some {γ : Type} {f : α → Option β} {p : β → γ} {q : α → γ} {l : List α}
    {out : List β} (hstep : ∀ a b, f a = some b → p b = q a) (h : l.mapM f = some out) :
    out.map p = l.map q := by
  induction l generalizing out with
  | nil =>
    obtain rfl := Option.some.inj h
    rfl
  | cons a rest ih =>
    rw [List.mapM_cons] at h
    obtain ⟨b, hb, h⟩ := Option.bind_eq_some_iff.mp h
    obtain ⟨bs, hbs, h⟩ := Option.bind_eq_some_iff.mp h
    obtain rfl := Option.some.inj h
    rw [List.map_cons, List.map_cons, hstep a b hb, ih hbs]

/-- The error of a run is the error of the first step that fails. -/
theorem mapM_eq_error_iff {f : α → Except ε β} {l : List α} {e : ε} :
    l.mapM f = .error e ↔
      ∃ before a after, l = before ++ a :: after ∧ (∀ a' ∈ before, ∃ b, f a' = .ok b) ∧
        f a = .error e := by
  induction l with
  | nil => simp [pure, Except.pure]
  | cons a rest ih =>
    rw [List.mapM_cons, bind_eq_error_iff]
    simp only [bind_eq_error_iff, pure, Except.pure, reduceCtorEq, and_false, exists_false,
      or_false, ih]
    constructor
    · rintro (h | ⟨b, hb, before, a', after, rfl, hbefore, h⟩)
      · exact ⟨[], a, rest, rfl, by simp, h⟩
      · exact ⟨a :: before, a', after, rfl, by simpa [hb] using hbefore, h⟩
    · rintro ⟨before, a', after, heq, hbefore, h⟩
      cases before with
      | nil =>
        obtain ⟨rfl, -⟩ := List.cons.inj heq
        exact .inl h
      | cons a'' before =>
        obtain ⟨rfl, rfl⟩ := List.cons.inj heq
        obtain ⟨⟨b, hb⟩, hbefore⟩ := List.forall_mem_cons.mp hbefore
        exact .inr ⟨b, hb, before, a', after, rfl, hbefore, h⟩

/-- The error of a run is the error of one of its steps. -/
theorem exists_of_mapM_eq_error {f : α → Except ε β} {l : List α} {e : ε}
    (h : l.mapM f = .error e) : ∃ a ∈ l, f a = .error e := by
  obtain ⟨before, a, after, rfl, -, ha⟩ := mapM_eq_error_iff.mp h
  exact ⟨a, List.mem_append_cons_self, ha⟩

/-- The results of a run that succeeds are those of its steps. -/
theorem eq_filterMap_of_mapM_eq_ok {f : α → Except ε β} {l : List α} {out : List β}
    (h : l.mapM f = .ok out) : out = l.filterMap fun a => (f a).toOption := by
  calc
    out = (out.map (Except.ok (ε := ε))).filterMap Except.toOption := by
      simp [List.filterMap_map, Function.comp_def, Except.toOption]
    _ = (l.map f).filterMap Except.toOption := by rw [mapM_eq_ok_iff.mp h]
    _ = l.filterMap fun a => (f a).toOption := List.filterMap_map

/-- A run succeeds exactly when every step does. -/
theorem exists_mapM_eq_ok_iff {f : α → Except ε β} {l : List α} :
    (∃ out, l.mapM f = .ok out) ↔ ∀ a ∈ l, ∃ b, f a = .ok b := by
  constructor
  · intro hex a ha
    obtain ⟨out, h⟩ := hex
    have hmem : f a ∈ out.map (Except.ok (ε := ε)) := by
      rw [← mapM_eq_ok_iff.mp h]
      exact List.mem_map_of_mem ha
    obtain ⟨b, -, hb⟩ := List.mem_map.mp hmem
    exact ⟨b, hb.symm⟩
  · intro h
    cases hrun : l.mapM f with
    | ok out => exact ⟨out, rfl⟩
    | error e =>
      obtain ⟨a, ha, he⟩ := exists_of_mapM_eq_error hrun
      obtain ⟨b, hb⟩ := h a ha
      simp [hb] at he

/-- A run is at the state that belongs to the elements read so far, if every step keeps that. -/
theorem foldlM_eq_ok_of_concat {σ : Type} {step : σ → α → Except ε σ} {f : List α → σ}
    {l : List α} (before : List α)
    (h : ∀ l₁ a l₂, l = l₁ ++ a :: l₂ →
      step (f (before ++ l₁)) a = .ok (f (before ++ l₁ ++ [a]))) :
    l.foldlM step (f before) = .ok (f (before ++ l)) := by
  induction l generalizing before with
  | nil => rw [List.append_nil]; rfl
  | cons a rest ih =>
    have hfirst := h [] a rest rfl
    rw [List.append_nil] at hfirst
    rw [List.foldlM_cons, hfirst]
    change rest.foldlM step (f (before ++ [a])) = _
    rw [ih (before ++ [a]) fun l₁ a' l₂ heq => ?_, List.append_assoc, List.singleton_append]
    have hlater := h (a :: l₁) a' l₂ (by rw [heq, List.cons_append])
    rwa [List.append_cons] at hlater

end SheetReport
