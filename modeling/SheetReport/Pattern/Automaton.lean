import Std.Data.HashMap
import SheetReport.Pattern.Shape
import SheetReport.Text.Utf8

/-!
# Sizes of automata

A pattern is matched by an automaton over the bytes of a text, and by one that reads backwards.
Both have to be small enough. An automaton is measured as it is built, in states and links,
without being kept: parts that are repeated are built once for every copy.
-/

namespace SheetReport.Pattern

open Text (Ranges)
open Text.Utf8 (ByteRange)

/-- The size of an automaton so far: its states, and the bytes that the links of its states
take. The next state is numbered by the states there are. -/
structure Automaton where
  states : Nat := 0
  links : Nat := 0

namespace Automaton

/-- The largest automaton, in bytes. -/
def limit : Nat := 10485760

/-- The size in bytes. -/
def bytes (m : Automaton) : Nat := 32 * m.states + m.links

/-- Add states with links. -/
def add (m : Automaton) (states links : Nat) : Automaton := ⟨m.states + states, m.links + links⟩

/-- The bytes of a state's links to other states, where each carries a range of bytes. -/
def labelled (n : Nat) : Nat := 8 * n

/-- The bytes of a state's links to other states, where they carry nothing. -/
def plain (n : Nat) : Nat := 4 * n

/-- Whether the text is read from its start or from its end. -/
inductive Direction where
  | forward
  | backward
deriving DecidableEq

/-- The place of some numbers in a table with a number of slots. -/
def slot (slots : Nat) (numbers : List Nat) : Nat :=
  let mix (h : UInt64) (n : Nat) : UInt64 := (h ^^^ n.toUInt64) * 1099511628211
  (numbers.foldl mix 14695981039346656037).toNat % slots

/-- A link that a range of bytes leads along. -/
structure Arc where
  low : Nat
  high : Nat
  target : Nat
deriving DecidableEq

/-- The states that may be shared while a set is built, by their slots; a later state takes the
place of an earlier one in its slot. -/
abbrev Shared (α : Type) := Std.HashMap Nat (α × Nat)

/-- A state with some arcs: one that is shared, or a new one. -/
def share (arcs : Array Arc) (m : Automaton) (shared : Shared (Array Arc)) :
    Nat × Automaton × Shared (Array Arc) :=
  let place := slot 10000 (arcs.toList.flatMap fun a => [a.low, a.high, a.target])
  let fresh := (m.states, m.add 1 (labelled arcs.size), shared.insert place (arcs, m.states))
  match shared[place]? with
  | some (others, state) => if others = arcs then (state, m, shared) else fresh
  | none => fresh

/-- A state that is not finished: its arcs and the range of bytes that leads to the state
after it. -/
structure Open where
  arcs : Array Arc := #[]
  last : Option ByteRange := none

/-- The arcs of an unfinished state when its last one leads to a target. -/
def Open.close (o : Open) (target : Nat) : Array Arc :=
  match o.last with
  | none => o.arcs
  | some (low, high) => o.arcs.push ⟨low, high, target⟩

/-- Finish a chain of states from its end on. Gives the first state of the chain, or `target`
if the chain is empty. -/
def finish (target : Nat) (m : Automaton) (shared : Shared (Array Arc)) :
    List Open → Nat × Automaton × Shared (Array Arc)
  | [] => (target, m, shared)
  | o :: rest =>
    let (next, m, shared) := finish target m shared rest
    share (o.close next) m shared

/-- Add a sequence of ranges of bytes to a chain of unfinished states. What the sequence and the
one before it begin with in common stays unfinished. -/
def extend (target : Nat) (m : Automaton) (shared : Shared (Array Arc)) :
    List ByteRange → List Open → List Open × Automaton × Shared (Array Arc)
  | r :: rest, o :: chain =>
    if o.last = some r ∧ !rest.isEmpty then
      let (chain, m, shared) := extend target m shared rest chain
      (o :: chain, m, shared)
    else
      let (next, m, shared) := finish target m shared chain
      let chain := rest.map fun r => { last := some r }
      ({ arcs := o.close next, last := some r } :: chain, m, shared)
  | ranges, _ => (ranges.map fun r => { last := some r }, m, shared)

/-- A set whose characters are read from their first byte on. -/
def addForward (pieces : List (List ByteRange)) (m : Automaton) : Automaton :=
  let target := m.states
  let start : List Open × Automaton × Shared (Array Arc) := ([{}], m.add 1 0, {})
  let (chain, m, shared) :=
    pieces.foldl (fun (chain, m, shared) piece => extend target m shared piece chain) start
  (finish target m shared chain).2.1

/-- A piece of a set whose bytes are read from the last one on. Gives the state that it begins
with. -/
def addPiece (m : Automaton) (shared : Shared (ByteRange × Nat)) (target : Nat) :
    List ByteRange → Nat × Automaton × Shared (ByteRange × Nat)
  | [] => (target, m, shared)
  | (low, high) :: rest =>
    let place := slot 1000 [target, low, high]
    let key := ((low, high), target)
    let fresh := (m.states, m.add 1 0, shared.insert place (key, m.states))
    let (next, m, shared) :=
      match shared[place]? with
      | some (other, state) => if other = key then (state, m, shared) else fresh
      | none => fresh
    addPiece m shared next rest

/-- A set whose characters are read from their last byte on. -/
def addBackward (pieces : List (List ByteRange)) (m : Automaton) : Automaton :=
  let target := m.states + 1
  let start : Automaton × Shared (ByteRange × Nat) := (m.add 2 0, {})
  let (m, _) := pieces.foldl
    (fun (m, shared) piece =>
      let (_, m, shared) := addPiece m shared target piece
      (m.add 0 (plain 1), shared))
    start
  m

/-- A set of characters. -/
def addSet (d : Direction) (r : Ranges) (m : Automaton) : Automaton :=
  if List.all r fun x => x.2 < 0x80 then m.add 2 (labelled r.length)
  else
    match d with
    | .forward => addForward (Text.Utf8.pieces r) m
    | .backward => addBackward (Text.Utf8.pieces r) m

/-- The words of a list in groups of those that begin with the same byte, without that byte. -/
def tails : List (List Nat) → List (Nat × List (List Nat))
  | [] => []
  | [] :: words => tails words
  | (b :: tail) :: words =>
    let rest := tails words
    match rest.lookup b with
    | none => (b, [tail]) :: rest
    | some others => (b, tail :: others) :: rest.filter (·.1 != b)

/-- The words of a list up to each empty one, and those after the last empty one. Empty words
at the beginning count once. -/
def sections (words : List (List Nat)) : List (List (List Nat)) :=
  let leading := words.takeWhile List.isEmpty
  let rest := (words.drop leading.length).splitOnP List.isEmpty
  if leading.isEmpty then rest else [] :: rest

/-- A tree of words, each word read byte by byte. A tree of empty words needs no state. -/
def addWords : Nat → List (List Nat) → Automaton → Automaton
  | 0, _, m => m
  | fuel + 1, words, m =>
    if words.all List.isEmpty then m
    else
      let sections := (sections words).map tails
      let m := sections.foldl
        (fun m groups =>
          let m := groups.foldl (fun m g => addWords fuel g.2 m) m
          match groups.length with
          | 0 => m
          | 1 => m.add 1 0
          | n => m.add 1 (labelled n))
        m
      let filled := sections.countP fun groups => !groups.isEmpty
      m.add 1 (plain (filled + (sections.length - 1)))

/-- The bytes of a literal. -/
def word? (d : Direction) : Shape → Option (List Nat)
  | .literal text =>
    let bytes := Text.Utf8.ofText text
    some (if d = .forward then bytes else bytes.reverse)
  | _ => none

/-- Copies of a part, until the automaton is too large. -/
def copies (part : Automaton → Automaton) : Nat → Automaton → Automaton
  | 0, m => m
  | n + 1, m => if limit < m.bytes then m else copies part n (part m)

/-- A part repeated. -/
def addRepeated (r : Repetition) (minLength : Option Nat) (part : Automaton → Automaton)
    (m : Automaton) : Automaton :=
  match r.low, r.high with
  | 0, none =>
    if minLength.any (0 < ·) then part (m.add 1 (plain 2))
    else (part m).add 3 (plain 4)
  | low, none => (copies part low m).add 1 (plain 2)
  | 0, some 1 => (part (m.add 1 (plain 2))).add 1 0
  | low, some high =>
    let m := if low = 0 then m.add 1 0 else copies part low m
    if low = high then m
    else copies (fun m => part (m.add 1 (plain 2))) (high - low) (m.add 1 0)

/-- A shape behind what is built already. `further` tells that it is one of the last
alternatives of a choice whose other ones are built. -/
def addShape (d : Direction) : Shape → (further : Bool) → Automaton → Automaton
  | .empty, _, m | .assertion _, _, m => m.add 1 0
  | .literal text, _, m => m.add (Text.Utf8.ofText text).length 0
  | .set r, _, m => addSet d r m
  | .captured s, _, m =>
    if d = .forward then (addShape d s false (m.add 1 0)).add 1 0 else addShape d s false m
  | .seq s t, _, m =>
    if d = .forward then addShape d t false (addShape d s false m)
    else addShape d s false (addShape d t false m)
  | .alt s t, further, m =>
    let built := (addShape d t true (addShape d s false m)).add 0 (plain 1)
    if further then built
    else
      match (Shape.alt s t).choices.mapM (word? d) with
      | some words => addWords (words.foldl (· + ·.length) 1) words (m.add 1 0)
      | none => built.add 2 (plain 1)
  | .repeated r s, _, m => addRepeated r s.minLength? (addShape d s false) m

/-- The automaton of a shape: a loop over what stands before a match, unless a match can only
stand at the end of the text that the automaton begins with, the shape, and a final state. -/
def ofShape (d : Direction) (s : Shape) : Automaton :=
  let anchored := match d with
    | .forward => s.beginsAtStart
    | .backward => s.endsAtEnd
  let start : Automaton := {}
  let start := if anchored then start.add 1 0 else start.add 3 (plain 2 + labelled 1)
  match d with
  | .forward => (addShape d s false (start.add 1 0)).add 2 0
  | .backward => (addShape d s false start).add 1 0

/-- A size that the automata of a pattern do not exceed. -/
def bound : Pattern → Nat
  | .empty | .assertion _ => 32
  | .chars (.range low high) => if high.toNat < 0x80 then 80 else if low = high then 400 else 6000
  | .chars s => 3000 * (s.rangeBound + 1)
  | .seq p q => bound p + bound q
  | .alt p q => bound p + bound q + 100
  | .group _ p => bound p + 100
  | .repeated r p => (bound p + 100) * (r.high.getD (r.low + 1)) + 200

/-- Whether the automata of a pattern are small enough. -/
def fits (p : Pattern) : Bool :=
  bound p + 1000 ≤ limit ||
    (let s := p.shape
     (ofShape .forward s).bytes ≤ limit && (ofShape .backward s).bytes ≤ limit)

end Automaton

end SheetReport.Pattern
