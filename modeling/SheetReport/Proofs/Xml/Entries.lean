import SheetReport.Xml.Event

/-!
# Lists of entries in a document

A part of a document lists elements of one name, the entries, and each entry has the elements that
stand in it. An entry ends at the next tag of its name, so entries do not stand in one another. What
holds of every entry and of every element in no entry, and is kept where parts follow one another,
holds of the whole part.

Main statement: `entries_induction`.
-/

namespace SheetReport.Xml

/-- The value that was read; there is none if it could not be read. -/
def read? {α : Type} (x : Except Fault (Option α)) : Option α := x.toOption.join

/-- What could be read is its value. -/
theorem eq_ok_read? {α : Type} {x : Except Fault (Option α)} (h : x.isOk = true) :
    x = .ok (read? x) := by
  cases x with
  | error fault => exact absurd h Bool.false_ne_true
  | ok value => cases value <;> rfl

/-- A flag that could be read is set or not. -/
theorem eq_ok_decide {x : Except Fault Bool} (h : x.isOk = true) :
    x = .ok (decide (x.toOption = some true)) := by
  cases x with
  | error fault => exact absurd h Bool.false_ne_true
  | ok value => cases value <;> rfl

/-- What is changed after reading can be read exactly if it can be read. -/
theorem isOk_map {α β : Type} {x : Except Fault α} (f : α → β) : (x.map f).isOk = x.isOk := by
  cases x <;> rfl

/-- A parsed value can be read exactly if its attribute can. -/
theorem Element.isOk_parsed? {α : Type} (e : Element) (name : String)
    (read : List Char → Option α) : (e.parsed? name read).isOk = (e.attribute? name).isOk :=
  isOk_map _

/-- A flag can be read exactly if its attribute can. -/
theorem Element.isOk_flag (e : Element) (name : String) (default : Bool) :
    (e.flag name default).isOk = (e.attribute? name).isOk :=
  isOk_map _

/-- The last of some elements that has a name. -/
def last? (name : String) (elements : List Element) : Option Element :=
  (elements.filter (·.localName = name)).getLast?

/-- Among no elements there is no last one. -/
@[simp] theorem last?_nil (name : String) : last? name [] = none := rfl

/-- An element that follows is the last one of its name. -/
theorem last?_concat (name : String) (elements : List Element) (e : Element) :
    last? name (elements ++ [e]) = if e.localName = name then some e else last? name elements := by
  by_cases h : e.localName = name <;> simp [last?, h]

/-- Without an element of a name there is no last one. -/
theorem last?_eq_none {name : String} {elements : List Element}
    (h : ∀ e ∈ elements, e.localName ≠ name) : last? name elements = none := by
  rw [last?, List.filter_eq_nil_iff.mpr fun e he => by simpa using h e he, List.getLast?_nil]

/-- With an element of a name there is a last one. -/
theorem isSome_last? {name : String} {elements : List Element}
    (h : ∃ e ∈ elements, e.localName = name) : (last? name elements).isSome = true := by
  obtain ⟨e, he, hname⟩ := h
  exact List.getLast?_isSome.mpr
    (List.ne_nil_of_mem (List.mem_filter.mpr ⟨he, decide_eq_true hname⟩))

/-- The last element of a name among two parts is that of the second part, if there is one. -/
theorem last?_append (name : String) (elements elements' : List Element) :
    last? name (elements ++ elements') = (last? name elements').or (last? name elements) := by
  rw [last?, List.filter_append, List.getLast?_append]
  rfl

namespace Event

/-- The name in a tag without its prefix. -/
def localName : Event → String
  | .start e => e.localName
  | .empty e => e.localName
  | .stop name => String.ofList (Xml.localName name)

/-- The element that begins with an event. -/
def element? : Event → Option Element
  | .start e => some e
  | .empty e => some e
  | .stop _ => none

end Event

/-- A document without a fault is read event by event. -/
theorem foldEvents_map_ok {σ : Type} (step : σ → Event → Except Fault σ) (events : List Event)
    (s : σ) : foldEvents step s (events.map .ok) = events.foldlM step s := by
  induction events generalizing s with
  | nil => rfl
  | cons event rest ih =>
    rw [List.map_cons, foldEvents, List.foldlM_cons]
    cases step s event with
    | error fault => rfl
    | ok s' => exact ih s'

/-- The elements of some events. -/
def elements (events : List Event) : List Element := events.filterMap Event.element?

/-- The elements before the next tag of a name. -/
def own (name : String) (events : List Event) : List Element :=
  elements (events.takeWhile (·.localName ≠ name))

/-- An element of a list and the elements in it. -/
structure Entry where
  element : Element
  own : List Element

/-- The elements of a name, each with the elements in it. -/
def entries (name : String) : List Event → List Entry
  | [] => []
  | .start e :: rest =>
    if e.localName = name then ⟨e, own name rest⟩ :: entries name rest else entries name rest
  | .empty e :: rest => if e.localName = name then ⟨e, []⟩ :: entries name rest else entries name rest
  | .stop _ :: rest => entries name rest

/-- The elements that neither have a name nor stand in an element of that name; `inside` tells
whether the first event stands in one. -/
def strays (name : String) : (inside : Bool) → List Event → List Element
  | _, [] => []
  | inside, .start e :: rest =>
    if e.localName = name then strays name true rest
    else if inside then strays name true rest
    else e :: strays name false rest
  | inside, .empty e :: rest =>
    if e.localName = name then strays name false rest
    else if inside then strays name true rest
    else e :: strays name false rest
  | inside, .stop other :: rest =>
    strays name (inside && (Event.stop other).localName ≠ name) rest

section

variable {name : String} {events : List Event} {e : Element}

/-- No events have no elements. -/
@[simp] theorem elements_nil : elements [] = [] := rfl

/-- A tag that opens an element brings it. -/
@[simp] theorem elements_start : elements (.start e :: events) = e :: elements events := rfl

/-- A tag of an empty element brings it. -/
@[simp] theorem elements_empty : elements (.empty e :: events) = e :: elements events := rfl

/-- A closing tag brings no element. -/
@[simp] theorem elements_stop {other : List Char} :
    elements (.stop other :: events) = elements events := rfl

/-- Before a tag of the name there is nothing left. -/
theorem own_cons_of_eq {event : Event} (h : event.localName = name) :
    own name (event :: events) = [] := by
  rw [own, List.takeWhile_cons_of_neg (by simpa using h), elements_nil]

/-- A tag of another name stands before what follows. -/
theorem own_cons_of_ne {event : Event} (h : event.localName ≠ name) :
    own name (event :: events) = event.element?.toList ++ own name events := by
  rw [own, List.takeWhile_cons_of_pos (by simpa using h)]
  cases event <;> rfl

/-- What stands before the next tag of a name are elements of other names. -/
theorem of_mem_own (h : e ∈ own name events) : e.localName ≠ name ∧ e ∈ elements events := by
  induction events with
  | nil => cases h
  | cons event rest ih =>
    by_cases hname : event.localName = name
    · rw [own_cons_of_eq hname] at h
      cases h
    · rw [own_cons_of_ne hname, List.mem_append] at h
      cases event with
      | start e' | empty e' =>
        obtain h | h := h
        · obtain rfl := List.mem_singleton.mp h
          exact ⟨hname, List.mem_cons_self⟩
        · exact (ih h).imp_right (List.mem_cons_of_mem _)
      | stop other => exact h.elim (fun h => absurd h List.not_mem_nil) ih

/-- Entries are elements of the name of their list, with elements of other names. -/
theorem of_mem_entries {x : Entry} (h : x ∈ entries name events) :
    (x.element.localName = name ∧ x.element ∈ elements events) ∧
      ∀ e ∈ x.own, e.localName ≠ name ∧ e ∈ elements events := by
  induction events with
  | nil => cases h
  | cons event rest ih =>
    have hlater (e' : Element) (h : x ∈ entries name rest) :
        (x.element.localName = name ∧ x.element ∈ e' :: elements rest) ∧
          ∀ e ∈ x.own, e.localName ≠ name ∧ e ∈ e' :: elements rest :=
      (ih h).imp (And.imp_right (List.mem_cons_of_mem _)) fun hown e he =>
        (hown e he).imp_right (List.mem_cons_of_mem _)
    cases event with
    | start e =>
      rw [entries] at h
      split at h
      case isTrue he =>
        obtain rfl | h := List.mem_cons.mp h
        · exact ⟨⟨he, List.mem_cons_self⟩, fun e' he' =>
            (of_mem_own he').imp_right (List.mem_cons_of_mem _)⟩
        · exact hlater e h
      case isFalse => exact hlater e h
    | empty e =>
      rw [entries] at h
      split at h
      case isTrue he =>
        obtain rfl | h := List.mem_cons.mp h
        · exact ⟨⟨he, List.mem_cons_self⟩, fun _ hown => absurd hown List.not_mem_nil⟩
        · exact hlater e h
      case isFalse => exact hlater e h
    | stop other => exact ih h

/-- The entries of a list are its elements of the name, in order. -/
theorem map_element_entries (name : String) (events : List Event) :
    (entries name events).map Entry.element = (elements events).filter (·.localName = name) := by
  induction events with
  | nil => rfl
  | cons event rest ih =>
    cases event with
    | start e | empty e => by_cases he : e.localName = name <;> simp [entries, he, ih]
    | stop other => exact ih

/-- What stands in no entry are elements of other names. -/
theorem of_mem_strays {inside : Bool} (h : e ∈ strays name inside events) :
    e.localName ≠ name ∧ e ∈ elements events := by
  induction events generalizing inside with
  | nil => cases h
  | cons event rest ih =>
    cases event with
    | start e' | empty e' =>
      rw [strays] at h
      split at h
      case isTrue => exact (ih h).imp_right (List.mem_cons_of_mem _)
      case isFalse he =>
        split at h
        case isTrue => exact (ih h).imp_right (List.mem_cons_of_mem _)
        case isFalse =>
          obtain rfl | h := List.mem_cons.mp h
          · exact ⟨he, List.mem_cons_self⟩
          · exact (ih h).imp_right (List.mem_cons_of_mem _)
    | stop other => exact ih h

end

section

variable {name : String} {P : List Element → List Entry → Prop}

/-- What holds of every entry and every stray holds of what follows, be it outside of entries or
inside one with some elements before. -/
theorem entries_induction_from (hnil : P [] [])
    (happend : ∀ {es es' xs xs'}, P es xs → P es' xs' → P (es ++ es') (xs ++ xs'))
    (events : List Event) (hentry : ∀ x ∈ entries name events, P (x.element :: x.own) [x]) :
    ((∀ e ∈ strays name false events, P [e] []) → P (elements events) (entries name events)) ∧
    ∀ e before, (∀ e ∈ strays name true events, P [e] []) →
      P (e :: (before ++ own name events)) [⟨e, before ++ own name events⟩] →
        P (e :: (before ++ elements events))
          (⟨e, before ++ own name events⟩ :: entries name events) := by
  induction events with
  | nil => exact ⟨fun _ => hnil, fun _ _ _ h => h⟩
  | cons event rest ih =>
    obtain ⟨hout, hin⟩ := ih fun x hx => hentry x <| by
      cases event <;> simp only [entries] <;> (try split) <;> simp [hx]
    by_cases hname : event.localName = name
    · -- the tag ends an entry, and it may begin one
      have hnext (h : ∀ e ∈ strays name false (event :: rest), P [e] []) :
          P (elements (event :: rest)) (entries name (event :: rest)) := by
        cases event with
        | start e =>
          have he : e.localName = name := hname
          simp only [entries, strays, he, if_true, elements_start] at h hentry ⊢
          exact hin e [] h (hentry _ List.mem_cons_self)
        | empty e =>
          have he : e.localName = name := hname
          simp only [entries, strays, he, if_true, elements_empty] at h hentry ⊢
          exact happend (hentry _ List.mem_cons_self) (hout h)
        | stop other => exact hout h
      refine ⟨hnext, fun e before h hbefore => ?_⟩
      rw [own_cons_of_eq hname, List.append_nil] at hbefore ⊢
      refine happend hbefore (hnext ?_)
      cases event with
      | start e' | empty e' =>
        have he : e'.localName = name := hname
        simpa only [strays, he, if_true] using h
      | stop other => simpa only [strays, hname, ne_eq, not_true_eq_false, decide_false,
          Bool.and_false] using h
    · -- the tag stands in an entry or outside of all
      rw [own_cons_of_ne hname]
      cases event with
      | start e | empty e =>
        have he : e.localName ≠ name := hname
        simp only [entries, strays, he, if_false, if_true, Bool.false_eq_true, elements_start,
          elements_empty, List.forall_mem_cons, Event.element?, Option.toList_some]
        refine ⟨fun h => happend h.1 (hout h.2), fun e' before h hbefore => ?_⟩
        have hlonger := hin e' (before ++ [e]) h
        simp only [List.append_assoc, List.singleton_append] at hlonger hbefore ⊢
        exact hlonger hbefore
      | stop other =>
        simp only [entries, strays, hname, ne_eq, not_false_eq_true, decide_true, Bool.and_true,
          elements_stop, Event.element?, Option.toList_none, List.nil_append]
        exact ⟨hout, hin⟩

/-- What holds of every entry and of every element in none, and is kept where parts follow one
another, holds of all elements with all entries. -/
theorem entries_induction (hnil : P [] [])
    (happend : ∀ {es es' xs xs'}, P es xs → P es' xs' → P (es ++ es') (xs ++ xs'))
    {events : List Event} (hentry : ∀ x ∈ entries name events, P (x.element :: x.own) [x])
    (hstray : ∀ e ∈ strays name false events, P [e] []) :
    P (elements events) (entries name events) :=
  (entries_induction_from hnil happend events hentry).1 hstray

end

end SheetReport.Xml
