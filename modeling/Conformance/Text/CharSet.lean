import Conformance.Text.Table
/-!
# Sets of characters

A set is kept as ranges of code points, in ascending order and with a gap between
any two.  No character lies between U+D7FF and U+E000, so ranges that end and
begin there touch.
-/
namespace Conformance.Text

/-- A set of characters, as ranges of code points in ascending order. -/
structure CharSet where
  ranges : List (Nat × Nat)
  deriving DecidableEq, Repr, Inhabited

namespace CharSet

def last : Nat := 0x10FFFF

def after (n : Nat) : Nat := if n = 0xD7FF then 0xE000 else n + 1

def before (n : Nat) : Nat := if n = 0xE000 then 0xD7FF else n - 1

/-- Is a code point in ascending ranges? -/
def covers : List (Nat × Nat) → Nat → Bool
  | [], _ => false
  | r :: rs, n => if n < r.1 then false else n ≤ r.2 || covers rs n

def has (s : CharSet) (c : Char) : Bool := covers s.ranges c.toNat

/-- Joins ranges that touch, given by ascending starts: `r` is the first one. -/
def joinFrom (r : Nat × Nat) : List (Nat × Nat) → List (Nat × Nat)
  | [] => [r]
  | q :: rs => if q.1 ≤ after r.2 then joinFrom (r.1, max r.2 q.2) rs else r :: joinFrom q rs

def of (ranges : List (Nat × Nat)) : CharSet :=
  match ranges.mergeSort fun a b => a.1 ≤ b.1 with
  | [] => ⟨[]⟩
  | r :: rs => ⟨joinFrom r rs⟩

def ofTable (table : String) : CharSet := of (tableRanges table)

def none : CharSet := ⟨[]⟩

def all : CharSet := ⟨[(0, last)]⟩

def range (lo hi : Char) : CharSet := ⟨[(lo.toNat, hi.toNat)]⟩

def single (c : Char) : CharSet := range c c

def union (a b : CharSet) : CharSet := of (a.ranges ++ b.ranges)

def unions (sets : List CharSet) : CharSet := of (sets.flatMap ranges)

/-- The ranges between ascending ranges, from `n` on. -/
def gapsFrom (n : Nat) : List (Nat × Nat) → List (Nat × Nat)
  | [] => if n ≤ last then [(n, last)] else []
  | r :: rs =>
    let rest := gapsFrom (after r.2) rs
    if n < r.1 then (n, before r.1) :: rest else rest

def compl (a : CharSet) : CharSet := ⟨gapsFrom 0 a.ranges⟩

def inter (a b : CharSet) : CharSet := (a.compl.union b.compl).compl

def without (a b : CharSet) : CharSet := (a.compl.union b).compl

/-- The characters in one set but not in both. -/
def either (a b : CharSet) : CharSet := (a.without b).union (b.without a)

/-- A set, or everything else. -/
def negateIf (negated : Bool) (a : CharSet) : CharSet := if negated then a.compl else a

def isEmpty (a : CharSet) : Bool := a.ranges.isEmpty

def only? (a : CharSet) : Option Char :=
  match a.ranges with
  | [(lo, hi)] => if lo = hi then some (Char.ofNat lo) else Option.none
  | _ => Option.none

def isAscii (a : CharSet) : Bool := a.ranges.all fun r => r.2 < 0x80

end CharSet

end Conformance.Text
