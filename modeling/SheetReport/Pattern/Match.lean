import SheetReport.Pattern.Program

/-!
# Matching

A pattern is matched leftmost first: of all places the first one where it matches, and there
the match that trying the alternatives in order would find first. The text is read once. The
attempts that are still possible are kept in order of preference, earlier beginnings first; an
attempt whose step has been reached by a preferred one is dropped, and so is everything behind
an attempt that is complete.
-/

namespace SheetReport.Pattern

/-- A match that began at a place and has come to a step. -/
structure Attempt where
  start : Nat
  step : Nat

/-- An attempt that is ready to read one character of a set. -/
structure Waiting where
  set : CharSet
  next : Attempt

/-- What has come of the attempts at a place: those that read next, last one first, the
beginning of a complete one, and the steps that have been reached. -/
structure Advance where
  waiting : List Waiting := []
  complete : Option Nat := none
  /-- For every step the number of the last place where it was reached. -/
  reached : Array Nat

/-- Follow attempts, in order of preference, until each reads or fails or one is complete. -/
def advance (m : Program) (before after : Option Char) (place : Nat) :
    Nat → List Attempt → Advance → Advance
  | 0, _, found | _ + 1, [], found => found
  | fuel + 1, ⟨start, step⟩ :: others, found =>
    if found.reached[step]? = some place then advance m before after place fuel others found
    else
      let found := { found with reached := found.reached.setIfInBounds step place }
      match m.steps[step]? with
      | none => advance m before after place fuel others found
      | some .accept => { found with complete := some start }
      | some (.read set next) =>
        let found := { found with waiting := ⟨set, ⟨start, next⟩⟩ :: found.waiting }
        advance m before after place fuel others found
      | some (.check a next) =>
        let ways := if a.holds before after then [⟨start, next⟩] else []
        advance m before after place fuel (ways ++ others) found
      | some (.fork first second) =>
        advance m before after place fuel (⟨start, first⟩ :: ⟨start, second⟩ :: others) found

/-- A match: where it begins and where it ends. -/
structure Found where
  start : Nat
  stop : Nat
deriving DecidableEq

/-- Read a text from a place on. `attempts` are those that are possible there, and `best` is the
preferred complete match so far; while there is none, a new attempt begins at every place.
Places are counted from one, so that no step has been reached at the number zero. -/
def search (m : Program) : Option Char → List Char → Nat → List Attempt → Array Nat →
    Option Found → Option Found
  | before, text, place, attempts, reached, best =>
    let attempts := if best.isNone then attempts ++ [⟨place, m.entry⟩] else attempts
    let fuel := attempts.length + 2 * m.steps.size + 1
    let found := advance m before text.head? place fuel attempts { reached := reached }
    let best := (found.complete.map (⟨·, place⟩)).or best
    match text with
    | [] => best
    | c :: rest =>
      let next := found.waiting.foldl (fun next w =>
        if w.set.contains c then w.next :: next else next) []
      if next.isEmpty && best.isSome then best
      else search m (some c) rest (place + 1) next found.reached best

/-- Where the leftmost match in a text stands. -/
def locate? (p : Pattern) (text : List Char) : Option Found :=
  let m := p.program
  search m none text 1 [] (Array.replicate m.steps.size 0) none

/-- The leftmost match in a text. -/
def find? (p : Pattern) (text : String) : Option String :=
  (p.locate? text.toList).map fun m =>
    String.ofList ((text.toList.drop (m.start - 1)).take (m.stop - m.start))

/-- Whether a text contains a match. -/
def isMatch (p : Pattern) (text : String) : Bool := (p.locate? text.toList).isSome

end SheetReport.Pattern
