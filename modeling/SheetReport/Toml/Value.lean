/-!
# Values of a TOML document

A table remembers how it was written, since that decides what may be added to it later: a
header can fill a table that was only implied by longer headers, and dotted keys can extend
what dotted keys began.
-/

namespace SheetReport.Toml

/-- How a table was written. -/
inductive Origin where
  /-- Between braces. -/
  | inline
  /-- Under a header of its own. -/
  | header
  /-- Named only on the way to another header. -/
  | implied
  /-- Named only on the way to a dotted key. -/
  | dotted
deriving DecidableEq, Repr

/-- A value. -/
inductive Value where
  | text (s : String)
  | integer (n : Int)
  | float (x : Float)
  | bool (b : Bool)
  /-- A date, a time, or both. -/
  | moment
  | array (items : List Value)
  /-- The tables under repeated headers. -/
  | tables (items : List Value)
  | table (origin : Origin) (entries : List (String × Value))
deriving Inhabited

/-- The entries of a table by key. -/
abbrev Entries := List (String × Value)

namespace Entries

/-- The value under a key. -/
def get? (entries : Entries) (key : String) : Option Value := List.lookup key entries

/-- The entries with another value under a key they have. -/
def replace (entries : Entries) (key : String) (v : Value) : Entries :=
  entries.map fun e => if e.1 = key then (key, v) else e

/-- A key begins to have a value. -/
def add? (entries : Entries) (key : String) (v : Value) : Option Entries :=
  match entries.get? key with
  | some _ => none
  | none => some (entries ++ [(key, v)])

/-- Change the table at the end of a path. A table that is missing on the way is created. Of
repeated tables the last one is meant. Keys lead neither through other values nor through a
table between braces, and dotted keys not through a table with a header. -/
def update? (dotted : Bool) (change : Origin → Entries → Option Entries) (origin : Origin)
    (entries : Entries) : List String → Option Entries
  | [] => change origin entries
  | key :: rest =>
    match entries.get? key with
    | none =>
      let new := if dotted then Origin.dotted else Origin.implied
      (update? dotted change new [] rest).map fun t => entries ++ [(key, .table new t)]
    | some (.table inner t) =>
      if inner = .inline ∨ (dotted ∧ inner = .header) then none
      else (update? dotted change inner t rest).map fun t => entries.replace key (.table inner t)
    | some (.tables items) =>
      match items.getLast? with
      | some (.table inner t) =>
        (update? dotted change inner t rest).map fun t =>
          entries.replace key (.tables (items.dropLast ++ [.table inner t]))
      | _ => none
    | some _ => none

/-- Give a key its value, where the key is the last of a dotted path or stands alone. A dotted
path ends in a table of dotted keys only. -/
def assign? (v : Value) (key : String) (path : List String) (origin : Origin)
    (entries : Entries) : Option Entries :=
  update? true
    (fun last t => if decide (last = .dotted) = path.isEmpty then none else t.add? key v)
    origin entries path

/-- Open the table of a header. -/
def openTable? (key : String) (_ : Origin) (entries : Entries) : Option Entries :=
  match entries.get? key with
  | none => some (entries ++ [(key, .table .header [])])
  | some (.table .implied t) => some (entries.replace key (.table .header t))
  | some _ => none

/-- Open one more table of a repeated header. -/
def openRepeated? (key : String) (_ : Origin) (entries : Entries) : Option Entries :=
  match entries.get? key with
  | none => some (entries ++ [(key, .tables [.table .header []])])
  | some (.tables items) => some (entries.replace key (.tables (items ++ [.table .header []])))
  | some _ => none

end Entries

end SheetReport.Toml
