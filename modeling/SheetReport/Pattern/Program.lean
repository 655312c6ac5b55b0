import SheetReport.Pattern.Syntax

/-!
# Programs of patterns

A pattern is matched by a program: a list of steps that read a character, test the place or fork
in two ways, the first of which is preferred. A program is built from its end, so that every
pattern is put in front of what it is followed by.
-/

namespace SheetReport.Pattern

/-- A step of a program with the numbers of the steps after it. -/
inductive Step where
  | read (set : CharSet) (next : Nat)
  | check (a : Assertion) (next : Nat)
  | fork (first second : Nat)
  | accept

/-- A program and the step where it begins. -/
structure Program where
  steps : Array Step
  entry : Nat

namespace Program

/-- The program that accepts at once. -/
def accept : Program := ⟨#[.accept], 0⟩

/-- A step in front of a program. -/
def push (m : Program) (s : Step) : Program :=
  let place := m.steps.size
  ⟨m.steps.push s, place⟩

/-- The choice between going on and leaving, in the order of preference that `greedy` asks for. -/
def choice (greedy : Bool) (more done : Nat) : Step :=
  if greedy then .fork more done else .fork done more

/-- A part in front of a program any number of times, and the step where the part begins. -/
def loop (greedy : Bool) (part : Program → Program) (m : Program) : Program × Nat :=
  let ⟨steps, exit⟩ := m
  let place := steps.size
  let ⟨steps, entry⟩ := part ⟨steps.push .accept, place⟩
  (⟨steps.setIfInBounds place (choice greedy entry exit), place⟩, entry)

/-- A number of copies of a part in front of a program. -/
def copies (part : Program → Program) : Nat → Program → Program
  | 0, m => m
  | n + 1, m => copies part n (part m)

/-- A repetition in front of a program. A part that can match nothing is entered at least once
before the choice to leave, so that an empty first repetition is preferred where it stands
first. Each copy above the lower limit can be left out with those behind it. -/
def repetition (r : Repetition) (nullable : Bool) (part : Program → Program) (m : Program) :
    Program :=
  let exit := m.entry
  match r.high with
  | none =>
    let (cycle, body) := loop r.greedy part m
    match r.low with
    | 0 => if nullable then cycle.push (choice r.greedy body exit) else cycle
    | n + 1 => copies part n { cycle with entry := body }
  | some high =>
    let optional (next : Program) : Program :=
      let ⟨steps, more⟩ := part next
      push ⟨steps, more⟩ (choice r.greedy more exit)
    copies part r.low (copies optional (high - r.low) m)

/-- A pattern in front of a program. -/
def before : Pattern → Program → Program
  | .empty, m => m
  | .chars set, m => m.push (.read set m.entry)
  | .assertion a, m => m.push (.check a m.entry)
  | .seq p q, m => before p (before q m)
  | .alt p q, m =>
    let exit := m.entry
    let ⟨steps, second⟩ := before q m
    let ⟨steps, first⟩ := before p ⟨steps, exit⟩
    push ⟨steps, first⟩ (.fork first second)
  | .group _ p, m => before p m
  | .repeated r p, m => repetition r p.nullable (before p) m

end Program

/-- The program of a pattern. -/
def program (p : Pattern) : Program := Program.before p Program.accept

end SheetReport.Pattern
