import Std.Data.HashMap
import Conformance.Regex.Pattern
/-!
# The room that a pattern takes

A pattern stands for two automata over bytes, one that reads a text forwards and
one that reads it backwards.  This module counts the room they take, in bytes,
without keeping them: a state takes 32, a link of a state that branches 4, and a
link of a state that tells ranges of bytes apart 8.  States are numbered as they
are added.  An expression whose automata take more room than `roomLimit` is
refused.

A set of characters outside ASCII becomes ranges of bytes.  Forwards, states with
the same links are shared; backwards, states with the same range and the same
state behind them are.  The shelves on which states are kept for sharing have so
many slots, and a state that is put on a slot takes it from the one before.

Repetitions count what they repeat as often as they ask for, and counting stops as
soon as the limit is passed.
-/
namespace Conformance.Regex

open Text (CharSet)

/-! ## Counting -/

/-- What has been counted: states, and the room their links take. -/
structure Extent where
  states : Nat := 0
  links : Nat := 0
  deriving DecidableEq, Repr

namespace Extent

def room (e : Extent) : Nat := 32 * e.states + e.links

/-- Counts more, unless that is too much. -/
def add (states links : Nat) (e : Extent) : Option Extent :=
  let e : Extent := ⟨e.states + states, e.links + links⟩
  if e.room ≤ roomLimit then some e else none

/-- Counts the link from a state that branches, if it is one. -/
def link (branches : Bool) (e : Extent) : Option Extent := e.add 0 (if branches then 4 else 0)

end Extent

/-! ## Characters as bytes -/

abbrev ByteRange := Nat × Nat

def bytesOf (n : Nat) : List Nat := (String.utf8EncodeChar (Char.ofNat n)).map UInt8.toNat

/-- Where a range of code points is cut so that its first part has bytes of equal number and its
bytes vary independently, if it has to be cut: the last code point of the first part. -/
def cut? (lo hi : Nat) : Option Nat :=
  let bySize := [0x7F, 0x7FF, 0xFFFF].find? fun m => lo ≤ m && m < hi
  let byTail (m : Nat) : Option Nat :=
    if lo / m = hi / m then none
    else if lo % m ≠ 0 then some (lo / m * m + m - 1)
    else if hi % m ≠ m - 1 then some (hi / m * m - 1)
    else none
  match bySize with
  | some m => some m
  | none => if hi ≤ 0x7F then none else [64, 64 * 64, 64 * 64 * 64].findSome? byTail

/-- The ranges of bytes, one for each byte, of the characters between two code points, in at most so
many cuts one inside the other. -/
def byteRows : Nat → Nat → Nat → List (List ByteRange)
  | 0, _, _ => []
  | n + 1, lo, hi =>
    if hi < lo then []
    else match cut? lo hi with
      | some m => byteRows n lo m ++ byteRows n (m + 1) hi
      | none => [(bytesOf lo).zip (bytesOf hi)]

/-- The ranges of bytes of a set of characters. No character lies between U+D7FF and U+E000. -/
def setRows (s : CharSet) : List (List ByteRange) :=
  s.ranges.flatMap fun r =>
    byteRows 64 r.1 (min r.2 0xD7FF) ++ byteRows 64 (max r.1 0xE000) r.2

/-! ## Sharing -/

structure Link where
  range : ByteRange
  next : Nat
  deriving DecidableEq, Repr

/-- States kept for sharing, by slot. -/
abbrev Shelf (κ : Type) := Std.HashMap Nat (κ × Nat)

def slotOf (size : Nat) (ns : List Nat) : Nat :=
  (ns.foldl (fun h n => (h ^^^ n.toUInt64) * 1099511628211) (14695981039346656037 : UInt64)).toNat %
    size

def onShelf? {κ : Type} [DecidableEq κ] (shelf : Shelf κ) (slot : Nat) (key : κ) : Option Nat :=
  match shelf[slot]? with
  | some (key', id) => if key' = key then some id else none
  | none => none

/-- The state with some links: one on the shelf, or a new one that is put there. -/
def shareNode (links : List Link) (shelf : Shelf (List Link)) (e : Extent) :
    Option (Nat × Shelf (List Link) × Extent) :=
  let slot := slotOf 10000 (links.flatMap fun l => [l.range.1, l.range.2, l.next])
  match onShelf? shelf slot links with
  | some id => some (id, shelf, e)
  | none => (e.add 1 (8 * links.length)).map fun e' =>
    (e.states, shelf.insert slot (links, e.states), e')

/-- Rows that begin alike next to each other, with what is behind. -/
def byHead : List (List ByteRange) → List (ByteRange × List (List ByteRange))
  | [] => []
  | [] :: rows => byHead rows
  | (r :: tail) :: rows => match byHead rows with
    | [] => [(r, [tail])]
    | (r', tails) :: groups =>
      if r = r' then (r, tail :: tails) :: groups else (r, [tail]) :: (r', tails) :: groups

mutual

/-- The state that some rows of at most so many bytes start from, in front of the state `target`. -/
def forwardNode (target : Nat) : Nat → List (List ByteRange) → Shelf (List Link) → Extent →
    Option (Nat × Shelf (List Link) × Extent)
  | 0, _, shelf, e => some (target, shelf, e)
  | n + 1, rows, shelf, e =>
    match forwardLinks target n (byHead rows) shelf e with
    | none => none
    | some (links, shelf, e) => shareNode links shelf e

def forwardLinks (target : Nat) (n : Nat) : List (ByteRange × List (List ByteRange)) →
    Shelf (List Link) → Extent → Option (List Link × Shelf (List Link) × Extent)
  | [], shelf, e => some ([], shelf, e)
  | (r, tails) :: groups, shelf, e =>
    let next := if tails.all (·.isEmpty) then some (target, shelf, e)
      else forwardNode target n tails shelf e
    match next with
    | none => none
    | some (id, shelf, e) => match forwardLinks target n groups shelf e with
      | none => none
      | some (links, shelf, e) => some (⟨r, id⟩ :: links, shelf, e)

end

def forwardSet (rows : List (List ByteRange)) (e : Extent) : Option Extent :=
  match e.add 1 0 with
  | none => none
  | some e' => (forwardNode e.states 4 rows {} e').map (·.2.2)

/-- Counts the bytes of a row, read backwards, in front of a state. -/
def backwardRow : List ByteRange → Nat → Shelf (Nat × ByteRange) → Extent →
    Option (Nat × Shelf (Nat × ByteRange) × Extent)
  | [], next, shelf, e => some (next, shelf, e)
  | r :: rs, next, shelf, e =>
    let slot := slotOf 1000 [next, r.1, r.2]
    match onShelf? shelf slot (next, r) with
    | some id => backwardRow rs id shelf e
    | none => match e.add 1 0 with
      | none => none
      | some e' => backwardRow rs e.states (shelf.insert slot ((next, r), e.states)) e'

def backwardRows (target : Nat) : List (List ByteRange) → Shelf (Nat × ByteRange) → Extent →
    Option Extent
  | [], _, e => some e
  | row :: rows, shelf, e => match backwardRow row target shelf e with
    | none => none
    | some (_, shelf, e) => match e.add 0 4 with
      | none => none
      | some e => backwardRows target rows shelf e

def backwardSet (rows : List (List ByteRange)) (e : Extent) : Option Extent :=
  match e.add 2 0 with
  | none => none
  | some e' => backwardRows (e.states + 1) rows {} e'

def countSet (back : Bool) (s : CharSet) (e : Extent) : Option Extent :=
  if s.isAscii then e.add 2 (8 * s.ranges.length)
  else if back then backwardSet (setRows s) e
  else forwardSet (setRows s) e

/-! ## Branches of plain texts -/

/-- A tree of texts: the runs of branches in the order of the texts, each by ascending bytes, with
an end of a text between two runs. -/
inductive TextTree where
  | node (runs : List (List (Nat × TextTree)))
  deriving Inhabited

def placeAt {α : Type} (b : Nat) (f : Option α → α) : List (Nat × α) → List (Nat × α)
  | [] => [(b, f none)]
  | (c, t) :: ts =>
    if b = c then (c, f (some t)) :: ts
    else if b < c then (b, f none) :: (c, t) :: ts
    else (c, t) :: placeAt b f ts

/-- Adds a text to a tree. The run at hand is the first one; an end of a text begins another one,
unless nothing but an end is there. -/
def TextTree.insert : List Nat → TextTree → TextTree
  | [], .node [[], []] => .node [[], []]
  | [], .node runs => .node ([] :: runs)
  | b :: bs, .node (run :: runs) =>
    .node (placeAt b (fun t => TextTree.insert bs (t.getD (.node [[]]))) run :: runs)
  | b :: bs, .node [] => .node [placeAt b (fun t => TextTree.insert bs (t.getD (.node [[]]))) []]

def TextTree.isLeaf : TextTree → Bool
  | .node runs => runs.all (·.isEmpty)

mutual

def TextTree.extent : TextTree → Extent
  | .node runs =>
    let e := TextTree.runsExtent runs
    let ends := runs.length - 1
    let shown := (runs.filter fun run => !run.isEmpty).length
    ⟨e.states + 1, e.links + 4 * (shown + ends)⟩

def TextTree.runsExtent : List (List (Nat × TextTree)) → Extent
  | [] => {}
  | run :: runs =>
    let e := TextTree.runExtent run
    let e' := TextTree.runsExtent runs
    let own : Extent := match run.length with
      | 0 => ⟨0, 0⟩
      | 1 => ⟨1, 0⟩
      | n => ⟨1, 8 * n⟩
    ⟨own.states + e.states + e'.states, own.links + e.links + e'.links⟩

def TextTree.runExtent : List (Nat × TextTree) → Extent
  | [] => {}
  | (_, t) :: ts =>
    let e := if t.isLeaf then {} else t.extent
    let e' := TextTree.runExtent ts
    ⟨e.states + e'.states, e.links + e'.links⟩

end

def textBytes? : Pattern → Option (List Nat)
  | .text cs => some (cs.flatMap fun c => (String.utf8EncodeChar c).map UInt8.toNat)
  | _ => none

def countTexts (back : Bool) (texts : List (List Nat)) (e : Extent) : Option Extent :=
  let add (tree : TextTree) (bs : List Nat) := tree.insert (if back then bs.reverse else bs)
  let t := (texts.foldl (fun tree bs => add tree bs) (.node [[]])).extent
  e.add (t.states + 1) t.links

/-! ## Patterns -/

/-- Takes a step so many times, each time with a link from the end of the last one. -/
def repeatCount (step : Extent → Option (Bool × Extent)) : Nat → Bool → Extent →
    Option (Bool × Extent)
  | 0, branches, e => some (branches, e)
  | n + 1, branches, e => match step e with
    | none => none
    | some (branches', e) => match e.link branches with
      | none => none
      | some e => repeatCount step n branches' e

def countExactly (step : Extent → Option (Bool × Extent)) (n : Nat) (e : Extent) :
    Option (Bool × Extent) :=
  match n with
  | 0 => (e.add 1 0).map (false, ·)
  | n + 1 => match step e with
    | none => none
    | some (branches, e) => repeatCount step n branches e

def countOptional (step : Extent → Option (Bool × Extent)) : Nat → Bool → Extent →
    Option (Bool × Extent)
  | 0, branches, e => some (branches, e)
  | n + 1, branches, e => match e.add 1 8 with
    | none => none
    | some e => match step e with
      | none => none
      | some (branches', e) => match e.link branches with
        | none => none
        | some e => countOptional step n branches' e

/-- Counts a repetition of something that may take nothing, or must take a character. -/
def countRep (takes : Bool) (step : Extent → Option (Bool × Extent)) (least : Nat)
    (most : Option Nat) (e : Extent) : Option (Bool × Extent) :=
  match most with
  | none => match least with
    | 0 =>
      if takes then do
        let e ← e.add 1 4
        let (branches, e) ← step e
        let e ← e.link branches
        return (true, e)
      else do
        let (branches, e) ← step e
        let e ← e.link branches
        let e ← e.add 3 16
        return (false, e)
    | 1 => do
      let (branches, e) ← step e
      let e ← e.link branches
      let e ← e.add 1 4
      return (true, e)
    | n + 2 => do
      let (branches, e) ← countExactly step (n + 1) e
      let (branches', e) ← step e
      let e ← e.link branches
      let e ← e.link branches'
      let e ← e.add 1 4
      return (true, e)
  | some most =>
    if least = 0 ∧ most = 1 then do
      let e ← e.add 1 8
      let (branches, e) ← step e
      let e ← e.add 1 0
      let e ← e.link branches
      return (false, e)
    else if least = most then countExactly step least e
    else do
      let (branches, e) ← countExactly step least e
      let e ← e.add 1 0
      let (branches, e) ← countOptional step (most - least) branches e
      let e ← e.link branches
      return (false, e)

mutual

/-- Counts a pattern. Gives whether the state it ends in branches. -/
def Pattern.count (back : Bool) : Pattern → Extent → Option (Bool × Extent)
  | .empty, e => (e.add 1 0).map (false, ·)
  | .text cs, e => (e.add (cs.foldl (fun n c => n + c.utf8Size) 0) 0).map (false, ·)
  | .one s, e => (countSet back s e).map (false, ·)
  | .place _, e => (e.add 1 0).map (false, ·)
  | .seq ps, e =>
    (if back then Pattern.countBack ps e else Pattern.countRow ps e).map fun r =>
      (r.1.getD false, r.2)
  | .alt ps, e => match ps.mapM textBytes? with
    | some texts => (countTexts back texts e).map (false, ·)
    | none => (Pattern.countBranches back 0 ps e).map (false, ·)
  | .rep p least most, e => countRep (p.traits.takes == some true) (p.count back) least most e
  | .capture p, e =>
    if back then p.count back e
    else match e.add 1 0 with
      | none => none
      | some e => match p.count back e with
        | none => none
        | some (branches, e) => match e.add 1 (if branches then 4 else 0) with
          | none => none
          | some e => some (false, e)

def Pattern.countRow : List Pattern → Extent → Option (Option Bool × Extent)
  | [], e => some (none, e)
  | p :: ps, e => match p.count false e with
    | none => none
    | some (branches, e) => match Pattern.countRow ps e with
      | none => none
      | some (none, e) => some (some branches, e)
      | some (some last, e) => (e.link branches).map (some last, ·)

def Pattern.countBack : List Pattern → Extent → Option (Option Bool × Extent)
  | [], e => some (none, e)
  | p :: ps, e => match Pattern.countBack ps e with
    | none => none
    | some (before, e) => match p.count true e with
      | none => none
      | some (branches, e) => (e.link (before.getD false)).map (some branches, ·)

/-- Counts branches, `n` of which have been counted. The state that they start from and the one they
end in come behind the second one. -/
def Pattern.countBranches (back : Bool) (n : Nat) : List Pattern → Extent → Option Extent
  | [], e => some e
  | p :: ps, e => match p.count back e with
    | none => none
    | some (branches, e) => match e.add (if n = 1 then 2 else 0) (if branches then 8 else 4) with
      | none => none
      | some e => Pattern.countBranches back (n + 1) ps e

end

/-- The room that a pattern takes in one direction: what leads to its start, which goes over any
bytes unless every match begins at the end of the text that is read first, the pattern itself with
the ends of its match, and the last state. -/
def Pattern.fits (back : Bool) (p : Pattern) : Bool :=
  let anchored := if back then p.traits.ends else p.traits.starts
  let whole := if back then p else .capture p
  let start : Extent := {}
  ((start.add (if anchored then 1 else 3) (if anchored then 0 else 16)).bind fun e =>
    (whole.count back e).bind fun r => r.2.add 1 (if r.1 then 4 else 0)).isSome

def Pattern.isTooLarge (p : Pattern) : Bool := !(p.fits false && p.fits true)

end Conformance.Regex
