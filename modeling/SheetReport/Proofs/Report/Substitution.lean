import Mathlib.Data.List.Nodup
import SheetReport.Proofs.Report.Stages

/-!
# When filling placeholders is one substitution

Names are filled one after another, each in the first cell that holds its anchor when its turn
comes. A value may be the text of an anchor itself, and a name that comes later then finds that
value, if no anchor of its own stands before it. Such a value misleads the later name; nothing else
does. So filling is the substitution at once of every first anchor, in the grid as well as in the
list of cells, exactly if no value misleads a later name. This is asked of the order in which names
are filled, and what the substitution gives does not depend on the order.

Values are arbitrary: nothing is assumed of them that makes them differ from markup.

Main statements: `substitutes_iff` and `fill_is_substitution_iff`.
-/

namespace SheetReport.Markup

open Grid

/-- Whether a value, when it is filled in for its name, is taken for the anchor of a later name. -/
def Misleads (g : Grid) (e later : String × Value) : Prop :=
  e.1 ∉ Tag.structural ∧ later.1 ∉ Tag.structural ∧ e.2 = .text (Tag.anchor later.1).text ∧
    ∃ c, g.IsFirstAnchor e.1 c ∧ ∀ c', g.IsFirstAnchor later.1 c' → c.index < c'.index

/-- Whether no value misleads a name that is filled later. -/
def KeepsApart (g : Grid) (order : List (String × Value)) : Prop :=
  order.Pairwise fun e later => ¬ Misleads g e later

/-- Whether a grid and a list of filled cells are what the substitution of all names at once
gives. -/
structure Substitutes (g : Grid) (entries : List (String × Value))
    (out : Grid × List (Cell × String)) : Prop where
  /-- The first anchor of a name takes its value. -/
  get_first : ∀ e ∈ entries, e.1 ∉ Tag.structural → ∀ c, g.IsFirstAnchor e.1 c → out.1.get c = e.2
  /-- All other cells stay as they are. -/
  get_other : ∀ c, (∀ e ∈ entries, e.1 ∉ Tag.structural → ¬ g.IsFirstAnchor e.1 c) →
    out.1.get c = g.get c
  /-- The first anchors are listed with their names. -/
  mem_filled : ∀ c name, (c, name) ∈ out.2 ↔
    name ∈ entries.map Prod.fst ∧ name ∉ Tag.structural ∧ g.IsFirstAnchor name c
  /-- No name is listed twice. -/
  nodup : (out.2.map Prod.snd).Nodup

variable {g : Grid} {e later : String × Value} {entries : List (String × Value)} {c : Cell}

/-- A value that does not mislead a later name does not move the anchor of that name. -/
theorem isFirstAnchor_fillOne_iff_of_not_misleads (hne : e.1 ≠ later.1)
    (hlater : later.1 ∉ Tag.structural) (h : ¬ Misleads g e later) :
    (fillOne g e.1 e.2).1.IsFirstAnchor later.1 c ↔ g.IsFirstAnchor later.1 c := by
  -- where the value is the later anchor, an anchor of the later name stands before
  have hbefore (c : Cell) (hstructural : e.1 ∉ Tag.structural) (hfirst : g.IsFirstAnchor e.1 c)
      (hvalue : e.2 = .text (Tag.anchor later.1).text) :
      ∃ c', g.IsFirstAnchor later.1 c' ∧ c'.index ≤ c.index := by
    by_contra hnone
    refine h ⟨hstructural, hlater, hvalue, c, hfirst, fun c' hc' => ?_⟩
    exact Nat.lt_of_not_le fun hle => hnone ⟨c', hc', hle⟩
  constructor
  · intro hfirst
    rcases (get_fillOne_eq_anchor_iff hne).mp hfirst.1 with hold | ⟨hstructural, hown, hvalue⟩
    · exact ⟨hold, fun c' hc' => hfirst.2 c' ((get_fillOne_eq_anchor_iff hne).mpr (.inl hc'))⟩
    · obtain ⟨c', hc', hle⟩ := hbefore c hstructural hown hvalue
      have hge := hfirst.2 c' ((get_fillOne_eq_anchor_iff hne).mpr (.inl hc'.1))
      rwa [Cell.index_injective (Nat.le_antisymm hge hle)]
  · intro hfirst
    refine ⟨(get_fillOne_eq_anchor_iff hne).mpr (.inl hfirst.1), fun c' hc' => ?_⟩
    rcases (get_fillOne_eq_anchor_iff hne).mp hc' with hold | ⟨hstructural, hown, hvalue⟩
    · exact hfirst.2 c' hold
    · obtain ⟨c'', hc'', hle⟩ := hbefore c' hstructural hown hvalue
      rw [hfirst.unique hc'']
      exact hle

/-- A cell is listed for a name exactly if it is where the name is filled. -/
theorem mem_fillOne_iff {name other : String} {value : Value} :
    (c, other) ∈ (fillOne g name value).2.toList ↔
      other = name ∧ name ∉ Tag.structural ∧ g.IsFirstAnchor name c := by
  unfold fillOne
  split
  · rename_i hstructural
    simp [show name ∈ Tag.structural by simpa using hstructural]
  · rename_i hstructural
    have hstructural : name ∉ Tag.structural := by simpa using hstructural
    rw [← findAnchor?_eq_some_iff]
    cases g.findAnchor? name with
    | none => simp
    | some c' => simp [hstructural, and_comm, eq_comm]

/-- The names of listed cells are names that were filled, in their order. -/
theorem map_snd_fillList_sublist (g : Grid) (entries : List (String × Value)) :
    ((fillList g entries).2.map Prod.snd).Sublist (entries.map Prod.fst) := by
  induction entries generalizing g with
  | nil => exact List.Sublist.refl _
  | cons e rest ih =>
    change (((fillOne g e.1 e.2).2.toList ++ (fillList (fillOne g e.1 e.2).1 rest).2).map
      Prod.snd).Sublist ([e.1] ++ rest.map Prod.fst)
    rw [List.map_append]
    refine List.Sublist.append ?_ (ih _)
    cases hone : (fillOne g e.1 e.2).2 with
    | none => simp
    | some place =>
      have hname := mem_fillOne_iff.mp
        (show (place.1, place.2) ∈ (fillOne g e.1 e.2).2.toList by simp [hone])
      simp [hname.1]

/-- A name whose anchor is somewhere is filled there or before. -/
theorem exists_mem_fillList (hnodup : (entries.map Prod.fst).Nodup) (he : e ∈ entries)
    (hstructural : e.1 ∉ Tag.structural) (h : g.get c = .text (Tag.anchor e.1).text) :
    ∃ c', (c', e.1) ∈ (fillList g entries).2 ∧ c'.index ≤ c.index := by
  induction entries generalizing g with
  | nil => contradiction
  | cons e' rest ih =>
    obtain ⟨hnew, hnodup⟩ := List.nodup_cons.mp hnodup
    have hlist : (fillList g (e' :: rest)).2 =
        (fillOne g e'.1 e'.2).2.toList ++ (fillList (fillOne g e'.1 e'.2).1 rest).2 := rfl
    simp only [hlist, List.mem_append]
    rcases List.mem_cons.mp he with rfl | he
    · obtain ⟨c', hc'⟩ := exists_findAnchor?_iff.mpr ⟨c, h⟩
      have hfirst := findAnchor?_eq_some_iff.mp hc'
      exact ⟨c', .inl (mem_fillOne_iff.mpr ⟨rfl, hstructural, hfirst⟩), hfirst.2 c h⟩
    · have hne : e'.1 ≠ e.1 := fun heq => hnew (heq ▸ List.mem_map_of_mem he)
      obtain ⟨c', hc', hle⟩ := ih hnodup he ((get_fillOne_eq_anchor_iff hne).mpr (.inl h))
      exact ⟨c', .inr hc', hle⟩

/-- If the first name moves no anchor of a later one, the later names are listed like the
substitution of all names exactly if they are listed like their own. -/
theorem mem_fillList_cons_iff {rest : List (String × Value)}
    (hnodup : ((e :: rest).map Prod.fst).Nodup)
    (h : ∀ later ∈ rest, later.1 ∉ Tag.structural → ∀ c,
      (fillOne g e.1 e.2).1.IsFirstAnchor later.1 c ↔ g.IsFirstAnchor later.1 c) :
    (∀ c name, (c, name) ∈ (fillList g (e :: rest)).2 ↔
        name ∈ (e :: rest).map Prod.fst ∧ name ∉ Tag.structural ∧ g.IsFirstAnchor name c) ↔
      ∀ c name, (c, name) ∈ (fillList (fillOne g e.1 e.2).1 rest).2 ↔
        name ∈ rest.map Prod.fst ∧ name ∉ Tag.structural ∧
          (fillOne g e.1 e.2).1.IsFirstAnchor name c := by
  obtain ⟨hnew, hnodup⟩ := List.nodup_cons.mp hnodup
  refine forall_congr' fun c => forall_congr' fun name => ?_
  have hlist : (fillList g (e :: rest)).2 =
      (fillOne g e.1 e.2).2.toList ++ (fillList (fillOne g e.1 e.2).1 rest).2 := rfl
  rw [hlist, List.mem_append, mem_fillOne_iff, List.map_cons, List.mem_cons]
  have hlisted : (c, name) ∈ (fillList (fillOne g e.1 e.2).1 rest).2 → name ∈ rest.map Prod.fst :=
    fun hmem => (map_snd_fillList_sublist _ rest).subset (List.mem_map_of_mem hmem)
  by_cases hname : name ∈ rest.map Prod.fst
  · have hne : name ≠ e.1 := fun heq => hnew (heq ▸ hname)
    obtain ⟨later, hlater, rfl⟩ := List.mem_map.mp hname
    by_cases hstructural : later.1 ∈ Tag.structural
    · simp [hne, hstructural]
    · simp only [hne, hname, hstructural, h later hlater hstructural, false_and, false_or, or_true]
  · have hnot : (c, name) ∉ (fillList (fillOne g e.1 e.2).1 rest).2 := fun hmem =>
      hname (hlisted hmem)
    simp only [hname, hnot, or_false, false_and, iff_true]
    exact and_congr_right fun heq => by rw [heq]

/-- If the first name moves no anchor of a later one, all names are substituted exactly if the later
ones are after it. -/
theorem substitutes_cons_iff {rest : List (String × Value)}
    (hnodup : ((e :: rest).map Prod.fst).Nodup)
    (h : ∀ later ∈ rest, later.1 ∉ Tag.structural → ∀ c,
      (fillOne g e.1 e.2).1.IsFirstAnchor later.1 c ↔ g.IsFirstAnchor later.1 c) :
    Substitutes g (e :: rest) (fillList g (e :: rest)) ↔
      Substitutes (fillOne g e.1 e.2).1 rest (fillList (fillOne g e.1 e.2).1 rest) := by
  have hmem := mem_fillList_cons_iff hnodup h
  have hsublist (g : Grid) := map_snd_fillList_sublist g rest
  obtain ⟨hnew, hrest⟩ := List.nodup_cons.mp hnodup
  constructor
  · intro hall
    refine ⟨fun later hlater hstructural c hfirst => ?_,
      fun c => get_fillList_of_not_isFirstAnchor hrest,
      hmem.mp hall.mem_filled, hrest.sublist (hsublist _)⟩
    exact hall.get_first later (List.mem_cons_of_mem _ hlater) hstructural c
      ((h later hlater hstructural c).mp hfirst)
  · intro hlater
    refine ⟨fun e' he' hstructural c hfirst => ?_,
      fun c => get_fillList_of_not_isFirstAnchor hnodup,
      hmem.mpr hlater.mem_filled, hnodup.sublist (map_snd_fillList_sublist g _)⟩
    rcases List.mem_cons.mp he' with rfl | he'
    · have hone : (fillOne g e'.1 e'.2).1.get c = e'.2 :=
        get_fillOne_of_isFirstAnchor hstructural hfirst
      refine (hlater.get_other c fun later hmem hstructural hother => ?_).trans hone
      -- the cell held the anchor of this name, so it was the anchor of no other
      have hboth := hfirst.1.symm.trans ((h later hmem hstructural c).mp hother).1
      have hname := Tag.anchor_text_injective (Value.text.inj hboth)
      exact hnew (hname ▸ List.mem_map_of_mem hmem)
    · exact hlater.get_first e' he' hstructural c ((h e' he' hstructural c).mpr hfirst)

/-- If the first name moves no anchor of a later one, it does not change which values mislead. -/
theorem misleads_fillOne_iff {e' later : String × Value}
    (he' : e'.1 ∉ Tag.structural → ∀ c,
      (fillOne g e.1 e.2).1.IsFirstAnchor e'.1 c ↔ g.IsFirstAnchor e'.1 c)
    (hlater : later.1 ∉ Tag.structural → ∀ c,
      (fillOne g e.1 e.2).1.IsFirstAnchor later.1 c ↔ g.IsFirstAnchor later.1 c) :
    Misleads (fillOne g e.1 e.2).1 e' later ↔ Misleads g e' later := by
  unfold Misleads
  refine and_congr_right fun hstructural => and_congr_right fun hstructural' => ?_
  simp only [he' hstructural, hlater hstructural']

/-- Filling names one after another substitutes them at once exactly if no value misleads a later
name. -/
theorem substitutes_iff (hnodup : (entries.map Prod.fst).Nodup) :
    Substitutes g entries (fillList g entries) ↔ KeepsApart g entries := by
  induction entries generalizing g with
  | nil =>
    refine iff_of_true ⟨by simp, fun c _ => rfl, by simp [fillList], by simp [fillList]⟩ ?_
    exact List.Pairwise.nil
  | cons e rest ih =>
    have hne : ∀ later ∈ rest, e.1 ≠ later.1 := fun later hlater heq =>
      (List.nodup_cons.mp hnodup).1 (heq ▸ List.mem_map_of_mem hlater)
    have hunmoved (hapart : ∀ later ∈ rest, ¬ Misleads g e later) : ∀ later ∈ rest,
        later.1 ∉ Tag.structural → ∀ c,
          (fillOne g e.1 e.2).1.IsFirstAnchor later.1 c ↔ g.IsFirstAnchor later.1 c :=
      fun later hlater hstructural c => isFirstAnchor_fillOne_iff_of_not_misleads
        (hne later hlater) hstructural (hapart later hlater)
    have hlaterIff (hapart : ∀ later ∈ rest, ¬ Misleads g e later) :
        Substitutes g (e :: rest) (fillList g (e :: rest)) ↔ KeepsApart g rest := by
      have hfirst := hunmoved hapart
      rw [substitutes_cons_iff hnodup hfirst, ih (List.nodup_cons.mp hnodup).2]
      refine List.Pairwise.iff_of_mem fun {e' later} he' hlater => not_congr ?_
      exact misleads_fillOne_iff (hfirst e' he') (hfirst later hlater)
    rw [KeepsApart, List.pairwise_cons]
    constructor
    · intro hall
      have hapart : ∀ later ∈ rest, ¬ Misleads g e later := by
        intro later hlater hmisleads
        obtain ⟨hstructural, hstructural', hvalue, c, hfirst, hbefore⟩ := hmisleads
        -- the later name is filled at the value or before, where none of its anchors stood
        have hholds : (fillOne g e.1 e.2).1.get c = .text (Tag.anchor later.1).text :=
          (get_fillOne_of_isFirstAnchor hstructural hfirst).trans hvalue
        obtain ⟨c', hc', hle⟩ :=
          exists_mem_fillList (List.nodup_cons.mp hnodup).2 hlater hstructural' hholds
        have hlisted : (c', later.1) ∈ (fillList g (e :: rest)).2 :=
          List.mem_append_right _ hc'
        exact Nat.not_lt.mpr hle (hbefore c' ((hall.mem_filled c' later.1).mp hlisted).2.2)
      exact ⟨hapart, (hlaterIff hapart).mp hall⟩
    · intro hboth
      exact (hlaterIff hboth.1).mpr hboth.2

/-- The substitution of names at once does not depend on the order in which they are listed. -/
theorem substitutes_congr {order : List (String × Value)} {out : Grid × List (Cell × String)}
    (h : order.Perm entries) : Substitutes g order out ↔ Substitutes g entries out := by
  have hmem (e : String × Value) : e ∈ order ↔ e ∈ entries := h.mem_iff
  have hname (name : String) : name ∈ order.map Prod.fst ↔ name ∈ entries.map Prod.fst :=
    (h.map Prod.fst).mem_iff
  constructor
  · intro hout
    exact ⟨fun e he => hout.get_first e ((hmem e).mpr he),
      fun c hc => hout.get_other c fun e he => hc e ((hmem e).mp he),
      fun c name => by rw [hout.mem_filled, hname], hout.nodup⟩
  · intro hout
    exact ⟨fun e he => hout.get_first e ((hmem e).mp he),
      fun c hc => hout.get_other c fun e he => hc e ((hmem e).mpr he),
      fun c name => by rw [hout.mem_filled, hname], hout.nodup⟩

/-- Filling placeholders changes no other cells than the first anchors of their names, and no
structural anchor; every name whose anchor is in the grid is listed once. In whatever order the
names are filled, this is the substitution of all of them at once, in the grid and in the list,
exactly if no value is taken for the anchor of a name that is filled later; so with such values the
order does not matter, nor for one name which others there are. -/
theorem fill_is_substitution_iff (g : Grid) (values : Placeholders) :
    (∀ c, (∀ e ∈ values.entries, e.1 ∉ Tag.structural → ¬ g.IsFirstAnchor e.1 c) →
        (fill g values).1.get c = g.get c) ∧
      (∀ name ∈ Tag.structural, ∀ c, g.get c = .text (Tag.anchor name).text →
        (fill g values).1.get c = g.get c) ∧
      (∀ e ∈ values.entries, e.1 ∉ Tag.structural →
        (∃ c, g.get c = .text (Tag.anchor e.1).text) →
          ((fill g values).2.map Prod.snd).count e.1 = 1) ∧
      (Substitutes g values.entries (fill g values) ↔ KeepsApart g values.entries) ∧
      ∀ order, order.Perm values.entries →
        (Substitutes g values.entries (fillList g order) ↔ KeepsApart g order) := by
  have hnodup := values.nodup_names
  refine ⟨fun c => get_fillList_of_not_isFirstAnchor hnodup, fun name hname c hc => ?_,
    fun e he hstructural hex => ?_, substitutes_iff hnodup, fun order hperm => ?_⟩
  · refine get_fillList_of_not_isFirstAnchor hnodup fun e _ hstructural hfirst => hstructural ?_
    rwa [Tag.anchor_text_injective (Value.text.inj (hfirst.1.symm.trans hc))]
  · obtain ⟨c, hc⟩ := hex
    obtain ⟨c', hc', -⟩ := exists_mem_fillList hnodup he hstructural hc
    exact List.count_eq_one_of_mem (hnodup.sublist (map_snd_fillList_sublist g _))
      (List.mem_map_of_mem hc')
  · have hnodup' : (order.map Prod.fst).Nodup := ((hperm.map Prod.fst).nodup_iff).mpr hnodup
    rw [← substitutes_congr hperm, substitutes_iff hnodup']

/-- The first cell of a sheet. -/
def topCell : Cell := ⟨0, 0, Nat.zero_lt_succ _, Nat.zero_lt_succ _⟩

/-- The cell below the first. -/
def lowCell : Cell := ⟨1, 0, Nat.one_lt_succ_succ _, Nat.zero_lt_succ _⟩

/-- A grid in which the anchor of the client stands before that of the campaign. -/
def clientFirst : Grid := .ofList [(topCell, .text "<client>"), (lowCell, .text "<campaign>")]

/-- A grid in which the anchor of the campaign stands before that of the client. -/
def campaignFirst : Grid := .ofList [(topCell, .text "<campaign>"), (lowCell, .text "<client>")]

/-- A campaign that is named like the anchor of the client. -/
def anchorLikeCampaign : Placeholders :=
  .ofList [("campaign", .text "<client>"), ("client", .text "Acme")]

/-- The name of the campaign does not mislead where the client has an anchor before it. -/
theorem clientFirst_is_substituted :
    KeepsApart clientFirst anchorLikeCampaign.entries ∧
      Substitutes clientFirst anchorLikeCampaign.entries (fill clientFirst anchorLikeCampaign) ∧
      (fill clientFirst anchorLikeCampaign).1.get topCell = .text "Acme" ∧
      (fill clientFirst anchorLikeCampaign).1.get lowCell = .text "<client>" ∧
      ((fill clientFirst anchorLikeCampaign).2.map Prod.snd).count "client" = 1 := by
  obtain ⟨-, -, honce, hiff, -⟩ := fill_is_substitution_iff clientFirst anchorLikeCampaign
  have hcampaign : clientFirst.IsFirstAnchor "campaign" lowCell :=
    findAnchor?_eq_some_iff.mp (by decide)
  have hclient : clientFirst.IsFirstAnchor "client" topCell :=
    findAnchor?_eq_some_iff.mp (by decide)
  have hentries : anchorLikeCampaign.entries =
      [("campaign", .text "<client>"), ("client", .text "Acme")] := by decide
  have hapart : KeepsApart clientFirst anchorLikeCampaign.entries := by
    rw [hentries, KeepsApart, List.pairwise_pair]
    intro hmisleads
    obtain ⟨-, -, -, c, hc, hbefore⟩ := hmisleads
    obtain rfl := hc.unique hcampaign
    exact absurd (hbefore topCell hclient) (by decide)
  have hsubstitutes := hiff.mpr hapart
  refine ⟨hapart, hsubstitutes, ?_, ?_, ?_⟩
  · exact hsubstitutes.get_first ("client", .text "Acme") (by decide) (by decide) topCell hclient
  · exact hsubstitutes.get_first ("campaign", .text "<client>") (by decide) (by decide) lowCell
      hcampaign
  · exact honce ("client", .text "Acme") (by decide) (by decide) ⟨topCell, hclient.1⟩

/-- Where the anchor of the campaign stands first, its name is taken for the anchor of the client:
the first cell takes both values in turn, and the anchor of the client stays. -/
theorem campaignFirst_is_filled_twice :
    campaignFirst.IsFirstAnchor "campaign" topCell ∧ campaignFirst.IsFirstAnchor "client" lowCell ∧
      (fill campaignFirst anchorLikeCampaign).1.get topCell = .text "Acme" ∧
      (fill campaignFirst anchorLikeCampaign).1.get lowCell = .text "<client>" ∧
      (fill campaignFirst anchorLikeCampaign).2 = [(topCell, "campaign"), (topCell, "client")] ∧
      ¬ Substitutes campaignFirst anchorLikeCampaign.entries
        (fill campaignFirst anchorLikeCampaign) := by
  have hclient : campaignFirst.IsFirstAnchor "client" lowCell :=
    findAnchor?_eq_some_iff.mp (by decide)
  refine ⟨findAnchor?_eq_some_iff.mp (by decide), hclient, by decide, by decide, by decide, ?_⟩
  intro hsubstitutes
  have hget :=
    hsubstitutes.get_first ("client", .text "Acme") (by decide) (by decide) lowCell hclient
  exact absurd hget (by decide)

end SheetReport.Markup
