import SheetReport.Proofs.Workbook.StyleEntries

/-!
# Sections of a styles part

A styles part is read in one pass, but each section is read as if it stood alone: what it lists
does not depend on the sections before it or after it, nor on anything outside the sections. At the
end every format refers to the lists by number, so the order of the sections does not matter.

Main statement: `formats_resolve_by_index`.
-/

namespace SheetReport.StylePart

open Xml (Element Event Entry elements entries strays foldEvents foldEvents_map_ok
  entries_induction map_element_entries of_mem_entries of_mem_strays)

/-- The section that begins with an event. -/
def opens? : Event → Option Section
  | .start e => Section.ofName? e.localName
  | _ => none

/-- The section that ends with an event. -/
def closes? : Event → Option Section
  | .stop name => Section.ofName? (String.ofList (Xml.localName name))
  | _ => none

/-- The events of a section: those from its first start tag to the next end tag of it. -/
def body (s : Section) (events : List Event) : List Event :=
  (events.dropWhile (opens? · ≠ some s)).tail.takeWhile (closes? · ≠ some s)

/-- What a section lists. -/
def Section.tables : Section → List Event → Tables
  | .other, _ => {}
  | .numberFormats, part => { codes := (elements part).filterMap definedCode? }
  | .fonts, part => { fonts := (entries "font" part).map fun x => fontOf x.own }
  | .fills, part => { fills := (entries "fill" part).map fun x => fillOf x.own }
  | .cellFormats, part => { formats := (entries "xf" part).map fun x => listedOf x.element x.own }

/-- What all sections list. -/
def tables (part : Section → List Event) : Tables :=
  { codes := (Section.numberFormats.tables (part .numberFormats)).codes
    fonts := (Section.fonts.tables (part .fonts)).fonts
    fills := (Section.fills.tables (part .fills)).fills
    formats := (Section.cellFormats.tables (part .cellFormats)).formats }

/-- Whether the events of a section contain no other section, all that is read of them can be read,
and fonts, colours and alignments stand where they belong: in the section of fonts there are only
fonts with their elements, every colour of a fill follows the pattern of its fill, and every
alignment stands in a format. -/
structure Section.IsOrderly (s : Section) (part : List Event) : Prop where
  unnested : ∀ event ∈ part, opens? event = none ∧ closes? event = none
  readable : ∀ e ∈ elements part, IsReadable s e
  fonts : s = .fonts → strays "font" false part = []
  fills : s = .fills → ∀ e ∈ strays "fill" false part, e.localName ≠ "fgColor"
  patterns : s = .fills → ∀ x ∈ entries "fill" part, IsPatternFirst x.own
  /-- The colour of a fill is read only if the pattern of the fill is solid. -/
  colors : s = .fills → ∀ x ∈ entries "fill" part, isSolid x.own = true →
    ∀ e ∈ x.own, e.localName = "fgColor" → (e.attribute? "rgb").isOk = true
  alignments : s = .cellFormats → ∀ e ∈ strays "xf" false part, e.localName ≠ "alignment"

instance (s : Section) (part : List Event) : Decidable (s.IsOrderly part) :=
  decidable_of_iff
    ((∀ event ∈ part, opens? event = none ∧ closes? event = none) ∧
      (∀ e ∈ elements part, IsReadable s e) ∧
      (s = .fonts → strays "font" false part = []) ∧
      (s = .fills → ∀ e ∈ strays "fill" false part, e.localName ≠ "fgColor") ∧
      (s = .fills → ∀ x ∈ entries "fill" part, IsPatternFirst x.own) ∧
      (s = .fills → ∀ x ∈ entries "fill" part, isSolid x.own = true →
        ∀ e ∈ x.own, e.localName = "fgColor" → (e.attribute? "rgb").isOk = true) ∧
      (s = .cellFormats → ∀ e ∈ strays "xf" false part, e.localName ≠ "alignment"))
    ⟨fun h => ⟨h.1, h.2.1, h.2.2.1, h.2.2.2.1, h.2.2.2.2.1, h.2.2.2.2.2.1, h.2.2.2.2.2.2⟩,
      fun h => ⟨h.unnested, h.readable, h.fonts, h.fills, h.patterns, h.colors, h.alignments⟩⟩

/-- Whether each section begins at most once and is orderly. -/
structure IsOrderly (events : List Event) : Prop where
  once : (events.filterMap opens?).Nodup
  sections : ∀ s : Section, s.IsOrderly (body s events)

/-- What holds of each section can be decided one by one. -/
instance {P : Section → Prop} [DecidablePred P] : Decidable (∀ s, P s) :=
  decidable_of_iff
    (P .other ∧ P .numberFormats ∧ P .fonts ∧ P .fills ∧ P .cellFormats)
    ⟨fun h s => by cases s <;> simp [h], fun h => ⟨h _, h _, h _, h _, h _⟩⟩

instance (events : List Event) : Decidable (IsOrderly events) :=
  decidable_of_iff ((events.filterMap opens?).Nodup ∧ ∀ s : Section, s.IsOrderly (body s events))
    ⟨fun h => ⟨h.1, h.2⟩, fun h => ⟨h.once, h.sections⟩⟩

/-- A section without events is orderly. -/
theorem Section.isOrderly_nil (s : Section) : s.IsOrderly [] where
  unnested := fun _ h => absurd h List.not_mem_nil
  readable := fun _ h => absurd h List.not_mem_nil
  fonts := fun _ => rfl
  fills := fun _ _ h => absurd h List.not_mem_nil
  patterns := fun _ _ h => absurd h List.not_mem_nil
  colors := fun _ _ h => absurd h List.not_mem_nil
  alignments := fun _ _ h => absurd h List.not_mem_nil

/-! ### One section -/

section

variable {s : Section} {part : List Event}

/-- Entries that each add one value add a list of them, if nothing else adds any. -/
theorem reads_entries {α : Type} {name : String} {value : Entry → α} {t : List α → Tables}
    (hnil : t [] = {}) (happend : ∀ l l', t (l ++ l') = t l ++ t l')
    (hentry : ∀ x ∈ entries name part, Reads s (x.element :: x.own) (t [value x]))
    (hstray : ∀ e ∈ strays name false part, Reads s [e] {}) :
    Reads s (elements part) (t ((entries name part).map value)) := by
  refine entries_induction (P := fun es xs => Reads s es (t (xs.map value)))
    ?_ (fun hread hread' => ?_) hentry fun e he => ?_
  · rw [List.map_nil, hnil]
    exact .nil
  · rw [List.map_append, happend]
    exact hread.append hread'
  · rw [List.map_nil, hnil]
    exact hstray e he

/-- The elements of an orderly section add what it lists. -/
theorem Section.IsOrderly.reads (h : s.IsOrderly part) :
    Reads s (elements part) (s.tables part) := by
  cases s with
  | other =>
    refine fun s hs => ⟨s, ?_, hs, .refl s⟩
    exact foldlM_eq_ok_of_concat (f := fun _ => s) [] fun _ _ _ _ => readElement_other hs
  | numberFormats => exact reads_numberFormats h.readable
  | fonts =>
    refine reads_entries (t := fun l => { fonts := l }) rfl (fun _ _ => rfl) (fun x hx => ?_) fun e he => ?_
    · obtain ⟨⟨hname, -⟩, hown⟩ := of_mem_entries hx
      exact reads_font hname (fun e he => (hown e he).1) fun e he => h.readable e (hown e he).2
    · rw [h.fonts rfl] at he
      cases he
  | fills =>
    refine reads_entries (t := fun l => { fills := l }) rfl (fun _ _ => rfl) (fun x hx => ?_) fun e he => ?_
    · obtain ⟨⟨hname, -⟩, hown⟩ := of_mem_entries hx
      exact reads_fill hname (fun e he => (hown e he).imp_right (h.readable e))
        (h.patterns rfl x hx) (h.colors rfl x hx)
    · obtain ⟨hname, hmem⟩ := of_mem_strays he
      exact reads_fills_stray hname (h.fills rfl e he) (h.readable e hmem)
  | cellFormats =>
    refine reads_entries (t := fun l => { formats := l }) rfl (fun _ _ => rfl) (fun x hx => ?_) fun e he => ?_
    · obtain ⟨⟨hname, hmem⟩, hown⟩ := of_mem_entries hx
      exact reads_xf hname (h.readable _ hmem) fun e he => (hown e he).imp_right (h.readable e)
    · exact reads_cellFormats_stray (of_mem_strays he).1 (h.alignments rfl e he)

end

/-! ### Events -/

section

variable {s : Section} {state : State} {event : Event} {part : List Event}

/-- A start tag of a section leads into it. -/
theorem step_of_opens (h : opens? event = some s) :
    step state event = .ok { state with inside := s } := by
  cases event with
  | start e =>
    change Section.ofName? e.localName = some s at h
    rw [step, h]
  | empty e | stop name => cases h

/-- An end tag of a section leads out of all sections. -/
theorem step_of_closes (h : closes? event = some s) :
    step state event = .ok { state with inside := .other } := by
  cases event with
  | start e | empty e => cases h
  | stop name =>
    change Section.ofName? _ = some s at h
    rw [step, h]

/-- Within a section, and outside of all, any other event is at most an element. -/
theorem step_of_unnested (hopens : opens? event = none) (hcloses : closes? event = none) :
    step state event = (elements [event]).foldlM readElement state := by
  cases event with
  | start e =>
    change Section.ofName? e.localName = none at hopens
    rw [step, hopens]
    exact (bind_pure _).symm
  | empty e => exact (bind_pure _).symm
  | stop name =>
    change Section.ofName? _ = none at hcloses
    rw [step, hcloses]
    rfl

/-- Outside of the sections nothing is read before a section begins. -/
theorem step_of_other (hstate : state.inside = .other) (hopens : opens? event = none) :
    step state event = .ok state := by
  cases hcloses : closes? event with
  | none =>
    rw [step_of_unnested hopens hcloses]
    exact foldlM_eq_ok_of_concat (f := fun _ => state) [] fun _ _ _ _ => readElement_other hstate
  | some s => rw [step_of_closes hcloses, ← hstate]

/-- Inside a section only elements are read. -/
theorem foldlM_step_of_unnested (h : ∀ event ∈ part, opens? event = none ∧ closes? event = none) :
    part.foldlM step state = (elements part).foldlM readElement state := by
  induction part generalizing state with
  | nil => rfl
  | cons event rest ih =>
    obtain ⟨⟨hopens, hcloses⟩, hrest⟩ := List.forall_mem_cons.mp h
    have hsplit : elements (event :: rest) = elements [event] ++ elements rest := by
      cases event <;> rfl
    rw [List.foldlM_cons, step_of_unnested hopens hcloses, hsplit, List.foldlM_append]
    exact bind_congr fun _ => ih hrest

end

/-! ### The whole part -/

section

variable {s : Section} {event : Event} {before rest events : List Event}

/-- A section begins with its start tag. -/
theorem body_cons_of_eq (h : opens? event = some s) :
    body s (event :: rest) = rest.takeWhile (closes? · ≠ some s) := by
  rw [body, List.dropWhile_cons_of_neg (by simpa using h), List.tail_cons]

/-- What stands before the start tag of a section does not belong to it. -/
theorem body_append (h : ∀ event ∈ before, opens? event ≠ some s) :
    body s (before ++ rest) = body s rest := by
  rw [body, List.dropWhile_append_of_pos fun event hevent => decide_eq_true (h event hevent), body]

/-- Without its start tag a section has no events. -/
theorem body_eq_nil (h : ∀ event ∈ events, opens? event ≠ some s) : body s events = [] := by
  rw [← List.append_nil events, body_append h]
  rfl

/-- What one section lists and what the others list are all that is listed. -/
theorem tables_eq_append {part part' : Section → List Event}
    (hempty : part' s = []) (hother : ∀ s' ≠ s, part s' = part' s') :
    tables part = s.tables (part s) ++ tables part' := by
  cases s with
  | other =>
    simp [tables, Section.tables, Tables.append_def, hother]
  | numberFormats | fonts | fills | cellFormats =>
    simp [tables, Section.tables, Tables.append_def, hother, hempty, entries]

/-- Before a section begins, nothing belongs to any section. -/
theorem body_cons_of_ne (h : opens? event ≠ some s) : body s (event :: rest) = body s rest := by
  rw [body, List.dropWhile_cons_of_pos (by simpa using h), body]

/-- What stands outside of the sections can be left out. -/
theorem IsOrderly.of_cons (h : IsOrderly (event :: rest)) (hopens : opens? event = none) :
    IsOrderly rest where
  once := by
    have honce := h.once
    rwa [List.filterMap_cons_none hopens] at honce
  sections := fun s => by
    have hsection := h.sections s
    rwa [body_cons_of_ne (by simp [hopens])] at hsection

/-- What follows a section is orderly, has no such section and the other sections as they were. -/
theorem IsOrderly.after_section (h : IsOrderly (event :: rest)) (hopens : opens? event = some s) :
    ∃ part after, rest = part ++ after ∧ body s (event :: rest) = part ∧
      (∀ close ∈ after.head?, closes? close = some s) ∧ IsOrderly after.tail ∧
        body s after.tail = [] ∧ ∀ s' ≠ s, body s' (event :: rest) = body s' after.tail := by
  have hpart : body s (event :: rest) = rest.takeWhile (closes? · ≠ some s) :=
    body_cons_of_eq hopens
  have hrest : rest.takeWhile (closes? · ≠ some s) ++ rest.dropWhile (closes? · ≠ some s) = rest :=
    List.takeWhile_append_dropWhile
  generalize rest.takeWhile (closes? · ≠ some s) = part at hpart hrest
  have hclose (close : Event) (h : close ∈ (rest.dropWhile (closes? · ≠ some s)).head?) :
      closes? close = some s := by
    have hhead := List.head?_dropWhile_not (closes? · ≠ some s) rest
    rw [Option.mem_def.mp h] at hhead
    simpa using hhead
  generalize rest.dropWhile (closes? · ≠ some s) = after at hrest hclose
  have honce := h.once
  rw [List.filterMap_cons_some hopens, List.nodup_cons] at honce
  have hunnested := (h.sections s).unnested
  rw [hpart] at hunnested
  subst hrest
  have hothers (s' : Section) (hs' : s' ≠ s) :
      body s' (event :: (part ++ after)) = body s' after.tail := by
    rw [body_cons_of_ne (by simpa [hopens] using hs'.symm), body_append fun e he => by
      simp [(hunnested e he).1]]
    cases after with
    | nil => rfl
    | cons close rest =>
      have hstop := hclose close rfl
      cases close with
      | start e | empty e => cases hstop
      | stop name => exact body_cons_of_ne (by simp [opens?])
  have hempty : body s after.tail = [] := body_eq_nil fun e he heq =>
    honce.1 (List.mem_filterMap.mpr ⟨e, List.mem_append_right _ (List.mem_of_mem_tail he), heq⟩)
  refine ⟨part, after, rfl, hpart, hclose, ⟨?_, fun s' => ?_⟩, hempty, hothers⟩
  · exact honce.2.sublist (((List.tail_sublist after).trans
      (List.sublist_append_right part after)).filterMap opens?)
  · by_cases hs' : s' = s
    · rw [hs', hempty]
      exact s.isOrderly_nil
    · rw [← hothers s' hs']
      exact h.sections s'

/-- Read from outside of the sections, an orderly part adds what its sections list. -/
theorem IsOrderly.read {state : State} (h : IsOrderly events) (hstate : state.inside = .other) :
    ∃ state', events.foldlM step state = .ok state' ∧
      state.Added (tables fun s => body s events) state' := by
  induction hlength : events.length using Nat.strong_induction_on generalizing events state with
  | _ n ih =>
    cases events with
    | nil => exact ⟨state, rfl, .refl state⟩
    | cons event rest =>
      rw [List.length_cons] at hlength
      cases hopens : opens? event with
      | none =>
        obtain ⟨state', hread, hadded⟩ := ih _ (by omega) (h.of_cons hopens) hstate rfl
        refine ⟨state', ?_, ?_⟩
        · rw [List.foldlM_cons, step_of_other hstate hopens]
          exact hread
        · simpa [body_cons_of_ne, hopens] using hadded
      | some s =>
        obtain ⟨part, after, rfl, hpart, hclose, hafter, hnone, hothers⟩ := h.after_section hopens
        have hsection := h.sections s
        rw [hpart] at hsection
        obtain ⟨state₁, hread, -, hadded⟩ := hsection.reads { state with inside := s } rfl
        rw [tables_eq_append hnone hothers, hpart]
        have hbefore : (event :: (part ++ after)).foldlM step state = after.foldlM step state₁ := by
          rw [List.foldlM_cons, step_of_opens hopens]
          change (part ++ after).foldlM step { state with inside := s } = _
          rw [List.foldlM_append, foldlM_step_of_unnested hsection.unnested, hread]
          rfl
        rw [hbefore]
        have hfirst (inside : Section) :
            state.Added (s.tables part) { state₁ with inside := inside } :=
          ⟨hadded.codes, hadded.fonts, hadded.fills, hadded.formats⟩
        cases after with
        | nil => exact ⟨state₁, rfl, (hfirst state₁.inside).trans (.refl state₁)⟩
        | cons close rest =>
          rw [List.length_append, List.length_cons] at hlength
          have houtside : ({ state₁ with inside := .other } : State).inside = .other := rfl
          obtain ⟨state₂, hrest, hlater⟩ := ih rest.length (by omega) hafter houtside rfl
          refine ⟨state₂, ?_, (hfirst .other).trans hlater⟩
          rw [List.foldlM_cons, step_of_closes (hclose close rfl)]
          exact hrest

end

/-! ### Formats by number -/

/-- The formats of some sections: one for each that is listed, with the number format, the font and
the fill that its numbers refer to. A custom code counts before the predefined formats, and the last
one of a number counts. Font 0 is the default font. -/
def cellFormats (part : Section → List Event) : List CellFormat :=
  let listed := tables part
  listed.formats.map fun format =>
    { number :=
        match listed.codes.reverse.lookup format.number with
        | some code => some (.custom code)
        | none =>
          if format.number = 0 ∨ 255 < format.number then none else some (.builtin format.number)
      font := if format.font = 0 then none else listed.fonts[format.font]?
      fill := listed.fills[format.fill]?.join
      horizontal := format.horizontal
      vertical := format.vertical
      wrap := format.wrap }

/-- Of all codes under a number the last one is found. -/
theorem get?_foldl_insert (codes : List (Nat × String)) (m : OrderedMap Nat String) (id : Nat) :
    (codes.foldl (fun m c => m.insert c.1 c.2) m).get? id =
      (codes.reverse.lookup id).or (m.get? id) := by
  induction codes generalizing m with
  | nil => rfl
  | cons c rest ih =>
    rw [List.foldl_cons, ih, List.reverse_cons, List.lookup_append, Option.or_assoc]
    congr 1
    by_cases h : id = c.1
    · rw [h, OrderedMap.get?_insert_self, List.lookup_cons_self, Option.some_or]
    · rw [OrderedMap.get?_insert_of_ne m c.2 h, List.lookup_cons, beq_eq_false_iff_ne.mpr h]
      rfl

/-- What was added to the empty lists is resolved by number. -/
theorem State.Added.resolve_eq {part : Section → List Event} {s : State}
    (h : State.Added {} (tables part) s) : s.resolve = cellFormats part := by
  rw [State.resolve, h.formats, h.fonts, h.fills, h.codes, List.append_nil, List.append_nil,
    List.append_nil, List.reverse_reverse, List.reverse_reverse, List.reverse_reverse]
  refine List.map_congr_left fun format _ => ?_
  rw [Listed.resolve, numberFormat?, get?_foldl_insert, OrderedMap.get?_empty,
    Option.or_none]
  rfl

/-- Reading an orderly part gives one format for each that is listed, in order, with the number
format, the font, the fill and the alignment that belong to it. Nothing but the four sections
counts, neither their order nor what stands outside of them. -/
theorem formats_resolve_by_index {text : String} {events : List Event}
    (hevents : Xml.events text = events.map .ok) (h : IsOrderly events) :
    formats text = .ok (cellFormats fun s => body s events) ∧
      (cellFormats fun s => body s events).length =
        ((elements (body .cellFormats events)).filter (·.localName = "xf")).length ∧
      ∀ text' events', Xml.events text' = events'.map .ok → (events'.filterMap opens?).Nodup →
        (∀ s, body s events' = body s events) → formats text' = formats text := by
  have hformats {text : String} {events : List Event} (hevents : Xml.events text = events.map .ok)
      (h : IsOrderly events) : formats text = .ok (cellFormats fun s => body s events) := by
    have hstart : ({} : State).inside = .other := rfl
    obtain ⟨s, hread, hadded⟩ := h.read hstart
    rw [formats, ofEvents, hevents, foldEvents_map_ok, hread]
    exact congrArg Except.ok hadded.resolve_eq
  refine ⟨hformats hevents h, ?_, fun text' events' hevents' honce hsame => ?_⟩
  · rw [← map_element_entries, List.length_map, cellFormats, List.length_map]
    exact List.length_map _
  · have horderly : IsOrderly events' := ⟨honce, fun s => by rw [hsame]; exact h.sections s⟩
    rw [hformats hevents h, hformats hevents' horderly]
    simp only [hsame]

/-- An element as it is written between brackets. -/
def tag (content : String) : Element := .ofContent content.toList

/-- An event as it is written. -/
def written : Event → List Char
  | .start e => '<' :: e.name ++ e.attributes ++ ['>']
  | .empty e => '<' :: e.name ++ e.attributes ++ ['/', '>']
  | .stop name => '<' :: '/' :: name ++ ['>']

/-- A part whose sections stand in another order than usual, with a font and a format outside of
them. -/
def shuffledPart : List Event :=
  [.start (tag "styleSheet"),
    .start (tag "cellXfs"), .empty (tag "xf numFmtId=\"9\" fillId=\"1\""),
      .start (tag "xf numFmtId=\"164\" fontId=\"1\""), .empty (tag "alignment wrapText=\"1\""),
      .stop "xf".toList, .stop "cellXfs".toList,
    .start (tag "dxfs"), .start (tag "font"), .empty (tag "i"), .stop "font".toList,
      .stop "dxfs".toList,
    .start (tag "fills"), .empty (tag "fill"), .start (tag "fill"),
      .start (tag "patternFill patternType=\"solid\""), .empty (tag "fgColor rgb=\"FF00FF00\""),
      .stop "patternFill".toList, .stop "fill".toList, .stop "fills".toList,
    .start (tag "cellStyleXfs"), .empty (tag "xf fontId=\"1\""), .stop "cellStyleXfs".toList,
    .start (tag "fonts"), .empty (tag "font"), .start (tag "font"), .empty (tag "b"),
      .stop "font".toList, .stop "fonts".toList,
    .start (tag "numFmts"), .empty (tag "numFmt numFmtId=\"164\" formatCode=\"0.0\""),
      .stop "numFmts".toList,
    .stop "styleSheet".toList]

/-- The formats of the shuffled part are resolved by their numbers. Neither what stands outside of
the sections nor their order matters. -/
theorem shuffledPart_resolves :
    Xml.events (String.ofList (shuffledPart.flatMap written)) = shuffledPart.map .ok ∧
      IsOrderly shuffledPart ∧
      formats (String.ofList (shuffledPart.flatMap written)) = .ok
        [{ number := some (.builtin 9), fill := some 0x00ff00 },
          { number := some (.custom "0.0"), font := some { bold := true }, wrap := true }] := by
  have hevents : Xml.events (String.ofList (shuffledPart.flatMap written)) =
      Xml.eventsFrom true ((shuffledPart.flatMap written).length + 1) []
        (shuffledPart.flatMap written) := by
    rw [Xml.events, String.toList_ofList]
  have hread : Xml.eventsFrom true ((shuffledPart.flatMap written).length + 1) []
      (shuffledPart.flatMap written) = shuffledPart.map .ok ∧ IsOrderly shuffledPart ∧
        cellFormats (fun s => body s shuffledPart) =
          [{ number := some (.builtin 9), fill := some 0x00ff00 },
            { number := some (.custom "0.0"), font := some { bold := true }, wrap := true }] := by
    decide +kernel
  obtain ⟨hsame, horderly, hformats⟩ := hread
  rw [hsame] at hevents
  refine ⟨hevents, horderly, ?_⟩
  rw [(formats_resolve_by_index hevents horderly).1, hformats]

end SheetReport.StylePart
