import SheetReport.Text.Ranges

/-!
# Simple case folding

Two characters are case variants of each other when they fold to the same character. The
table gives the simple foldings of the Unicode character database as runs: a first code point,
the number of code points in the run, whether they follow one another or take every second
place, and the distance to their foldings.
-/

namespace SheetReport.Text

/-- A run of characters folded over one distance. -/
structure FoldRun where
  first : Nat
  count : Nat
  stride : Nat
  distance : Int

namespace FoldRun

/-- The code point a member of the run folds to. -/
def fold? (r : FoldRun) (code : Nat) : Option Nat :=
  if r.first ≤ code ∧ code < r.first + r.count * r.stride ∧
      (code - r.first) % r.stride = 0 then
    some (code + r.distance).toNat
  else none

/-- The member of the run that folds to a code point. -/
def source? (r : FoldRun) (folded : Nat) : Option Nat :=
  let code := (folded - r.distance).toNat
  if r.fold? code = some folded then some code else none

/-- Runs in hexadecimal: first code point, `.` for consecutive members or `:` for every second
one, their number, and the signed distance. -/
def table : String :=
  "41.1a+20 b5.1+307 c0.17+20 d8.7+20 100:18+1 132:3+1 139:8+1 14a:17+1 178.1-79 179:3+1
   17f.1-10c 181.1+d2 182:2+1 186.1+ce 187.1+1 189.2+cd 18b.1+1 18e.1+4f 18f.1+ca 190.1+cb
   191.1+1 193.1+cd 194.1+cf 196.1+d3 197.1+d1 198.1+1 19c.1+d3 19d.1+d5 19f.1+d6 1a0:3+1
   1a6.1+da 1a7.1+1 1a9.1+da 1ac.1+1 1ae.1+da 1af.1+1 1b1.2+d9 1b3:2+1 1b7.1+db 1b8.1+1 1bc.1+1
   1c4.1+2 1c5.1+1 1c7.1+2 1c8.1+1 1ca.1+2 1cb:9+1 1de:9+1 1f1.1+2 1f2:2+1 1f6.1-61 1f7.1-38
   1f8:14+1 220.1-82 222:9+1 23a.1+2a2b 23b.1+1 23d.1-a3 23e.1+2a28 241.1+1 243.1-c3 244.1+45
   245.1+47 246:5+1 345.1+74 370:2+1 376.1+1 37f.1+74 386.1+26 388.3+25 38c.1+40 38e.2+3f
   391.11+20 3a3.9+20 3c2.1+1 3cf.1+8 3d0.1-1e 3d1.1-19 3d5.1-f 3d6.1-16 3d8:c+1 3f0.1-36
   3f1.1-30 3f4.1-3c 3f5.1-40 3f7.1+1 3f9.1-7 3fa.1+1 3fd.3-82 400.10+50 410.20+20 460:11+1
   48a:1b+1 4c0.1+f 4c1:7+1 4d0:30+1 531.26+30 10a0.26+1c60 10c7.1+1c60 10cd.1+1c60 13f8.6-8
   1c80.1-184e 1c81.1-184d 1c82.1-1844 1c83.2-1842 1c85.1-1843 1c86.1-183c 1c87.1-1824
   1c88.1+89c3 1c89.1+1 1c90.2b-bc0 1cbd.3-bc0 1e00:4b+1 1e9b.1-3a 1e9e.1-1dbf 1ea0:30+1
   1f08.8-8 1f18.6-8 1f28.8-8 1f38.8-8 1f48.6-8 1f59:4-8 1f68.8-8 1f88.8-8 1f98.8-8 1fa8.8-8
   1fb8.2-8 1fba.2-4a 1fbc.1-9 1fbe.1-1c05 1fc8.4-56 1fcc.1-9 1fd3.1-1c43 1fd8.2-8 1fda.2-64
   1fe3.1-1c33 1fe8.2-8 1fea.2-70 1fec.1-7 1ff8.2-80 1ffa.2-7e 1ffc.1-9 2126.1-1d5d 212a.1-20bf
   212b.1-2046 2132.1+1c 2160.10+10 2183.1+1 24b6.1a+1a 2c00.30+30 2c60.1+1 2c62.1-29f7
   2c63.1-ee6 2c64.1-29e7 2c67:3+1 2c6d.1-2a1c 2c6e.1-29fd 2c6f.1-2a1f 2c70.1-2a1e 2c72.1+1
   2c75.1+1 2c7e.2-2a3f 2c80:32+1 2ceb:2+1 2cf2.1+1 a640:17+1 a680:e+1 a722:7+1 a732:1f+1
   a779:2+1 a77d.1-8a04 a77e:5+1 a78b.1+1 a78d.1-a528 a790:2+1 a796:a+1 a7aa.1-a544 a7ab.1-a54f
   a7ac.1-a54b a7ad.1-a541 a7ae.1-a544 a7b0.1-a512 a7b1.1-a52a a7b2.1-a515 a7b3.1+3a0 a7b4:8+1
   a7c4.1-30 a7c5.1-a543 a7c6.1-8a38 a7c7:2+1 a7cb.1-a567 a7cc.1+1 a7d0.1+1 a7d6:3+1 a7dc.1-a641
   a7f5.1+1 ab70.50-97d0 fb05.1+1 ff21.1a+20 10400.28+28 104b0.24+28 10570.b+27 1057c.f+27
   1058c.7+27 10594.2+27 10c80.33+40 10d50.16+20 118a0.20+20 16e40.20+20 1e900.22+22"

/-- Read one run. -/
def ofWord (word : List Char) : FoldRun :=
  let (first, afterFirst) := Table.number 0 word
  let (count, afterCount) := Table.number 0 (afterFirst.drop 1)
  let (distance, _) := Table.number 0 (afterCount.drop 1)
  { first := first
    stride := if afterFirst.head? = some ':' then 2 else 1
    count := count
    distance := if afterCount.head? = some '-' then -distance else distance }

/-- All runs. -/
def all : List FoldRun := (Table.words table.toList).map ofWord

/-- The members of a run with what they fold to. -/
def pairs (r : FoldRun) : List (Nat × Nat) :=
  (List.range r.count).map fun i =>
    let code := r.first + i * r.stride
    (code, (code + r.distance).toNat)

end FoldRun

/-- The simple case folding of a code point. -/
def foldCode (code : Nat) : Nat := (FoldRun.all.findSome? (·.fold? code)).getD code

/-- All case variants of a character, itself included. -/
def caseVariants (c : Char) : List Char :=
  let folded := foldCode c.toNat
  (folded :: FoldRun.all.filterMap (·.source? folded)).map Char.ofNat

/-- The case variants of the members of a set. -/
def Ranges.anyCase (r : Ranges) : Ranges :=
  let pairs := FoldRun.all.flatMap FoldRun.pairs
  let folded := (pairs.filter fun p => r.contains p.1 || r.contains p.2).map Prod.snd
  let hit := Ranges.ofList (folded.map fun n => (n, n))
  let variants := (pairs.filter fun p => hit.contains p.2).map fun p => (p.1, p.1)
  Ranges.unionOf [r, hit, variants]

end SheetReport.Text
