import SheetReport.Proofs.Number.Digits
import SheetReport.Proofs.Sequence
import SheetReport.Xml.Element

/-!
# Attributes of elements

An element is well formed if each of its attributes has a quoted value with known entities. Then
every look-up succeeds, and it gives the value of the first attribute of the wanted name, compared
without prefixes. What an element states under a name is read as a flag or as a number.

Main statements: `attribute?_eq`, `exists_flag_eq` and `statesNumber_iff`.
-/

namespace SheetReport.Xml

/-- An attribute under its local name, with its entities replaced; none if it is faulty. -/
def decoded? (raw : Option (List Char × List Char)) : Option (List Char × List Char) :=
  raw.bind fun a => (unescape none a.2).toOption.map fun value => (localName a.1, value)

namespace Element

/-- The attributes of an element under their local names; none if one of them is faulty. -/
def decodedAttributes? (e : Element) : Option (List (List Char × List Char)) :=
  e.rawAttributes.mapM decoded?

/-- Whether no attribute of an element is faulty. -/
def IsWellFormed (e : Element) : Prop := e.decodedAttributes?.isSome = true

instance (e : Element) : Decidable e.IsWellFormed :=
  inferInstanceAs (Decidable (_ = _))

/-- What an element states under a name; the first attribute of the name counts. -/
def stated? (e : Element) (name : String) : Option String :=
  e.decodedAttributes?.bind fun attributes => (attributes.lookup name.toList).map String.ofList

/-- Whether an element affirms what a name stands for, by `1` or by `true` in any case of its
letters. -/
def Affirms (e : Element) (name : String) : Prop :=
  ∃ text, e.stated? name = some text ∧
    ((Text.trim text.toList).map Char.toLower = ['1'] ∨
      (Text.trim text.toList).map Char.toLower = ['t', 'r', 'u', 'e'])

/-- Whether an element states a number below a limit: decimal digits, with or without a plus sign
before them. -/
def StatesNumber (e : Element) (limit : Nat) (name : String) (n : Nat) : Prop :=
  ∃ text digits, e.stated? name = some text ∧
    (Text.trim text.toList = digits ∨ Text.trim text.toList = '+' :: digits) ∧
    Number.IsNumeral digits ∧ Nat.ofDigitChars 10 digits 0 = n ∧ n < limit

variable {e : Element} {name : String}

/-- Among attributes that can be decoded, a look-up finds the first one of a name. -/
theorem lookup_eq {fuel : Nat} {text name : List Char} {attributes : List (List Char × List Char)}
    (h : (scanAll fuel text).mapM decoded? = some attributes) :
    Xml.lookup name fuel text = .ok ((attributes.lookup name).map String.ofList) := by
  induction fuel generalizing text attributes with
  | zero =>
    obtain rfl := Option.some.inj h
    rfl
  | succ fuel ih =>
    rw [scanAll] at h
    rw [Xml.lookup]
    match hscan : scanAttribute text with
    | .none =>
      rw [hscan] at h
      obtain rfl := Option.some.inj h
      rfl
    | .fault rest =>
      rw [hscan, List.mapM_cons] at h
      contradiction
    | .attribute key value rest =>
      rw [hscan, List.mapM_cons] at h
      obtain ⟨first, hfirst, h⟩ := Option.bind_eq_some_iff.mp h
      obtain ⟨others, hothers, h⟩ := Option.bind_eq_some_iff.mp h
      obtain rfl := Option.some.inj h
      obtain ⟨decoded, hdecoded, rfl⟩ := Option.map_eq_some_iff.mp hfirst
      rw [List.lookup_cons]
      dsimp only
      by_cases hname : Xml.localName key = name
      · rw [if_pos hname, eq_ok_of_toOption hdecoded, beq_iff_eq.mpr hname.symm]
        rfl
      · rw [if_neg hname, ih hothers, beq_eq_false_iff_ne.mpr (Ne.symm hname)]

/-- A look-up in a well-formed element gives what it states. -/
theorem attribute?_eq (h : e.IsWellFormed) (name : String) :
    e.attribute? name = .ok (e.stated? name) := by
  obtain ⟨attributes, hattributes⟩ := Option.isSome_iff_exists.mp h
  rw [stated?, hattributes]
  exact lookup_eq hattributes

/-- A value in a well-formed element is read from what it states. -/
theorem parsed?_eq {α : Type} (h : e.IsWellFormed) (name : String) (read : List Char → Option α) :
    e.parsed? name read = .ok ((e.stated? name).bind fun text => read (Text.trim text.toList)) := by
  rw [parsed?, attribute?_eq h]
  rfl

/-- A flag that is not set by default is set in a well-formed element that affirms it, and only
there. -/
theorem exists_flag_eq (h : e.IsWellFormed) (name : String) :
    ∃ isSet, e.flag name false = .ok isSet ∧ (isSet = true ↔ e.Affirms name) := by
  rw [flag, attribute?_eq h]
  unfold Affirms
  cases e.stated? name with
  | none => exact ⟨false, rfl, by simp⟩
  | some text =>
    refine ⟨_, rfl, ?_⟩
    generalize (Text.trim text.toList).map Char.toLower = word
    simp

/-- A number that an element states is the one that is read under its limit. -/
theorem statesNumber_iff {limit n : Nat} : e.StatesNumber limit name n ↔
    ((e.stated? name).bind fun text => Number.nat? limit (Text.trim text.toList)) = some n := by
  simp only [StatesNumber, Option.bind_eq_some_iff, Number.nat?_eq_some_iff, exists_and_left]

end Element

end SheetReport.Xml
