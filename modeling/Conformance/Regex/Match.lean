import Conformance.Regex.Extent
/-!
# Matching regular expressions

A place in a text is the character before it and the one behind it, which is all
that conditions look at.  A set of places is kept as marks, one for each place of
the text, and a pattern takes the marked places to all places at which a match
from one of them may end.  So the work is bounded by the pattern and the number of
places, whatever the stars.

An expression matches a text when it matches a part of it.
-/
namespace Conformance.Regex

structure Place where
  before : Option Char
  behind : Option Char
  deriving DecidableEq, Repr

namespace Place

/-- All places of a text from here to its end. -/
def onwards (before : Option Char) : List Char → List Place
  | [] => [⟨before, none⟩]
  | c :: cs => ⟨before, some c⟩ :: onwards (some c) cs

/-- Is the character before, or behind, a place part of a word? -/
def isWordChar (unicode : Bool) (c : Option Char) : Bool :=
  c.any fun c => if unicode then Text.isWord c else c.isAlphanum || c == '_'

def meets (p : Place) : Condition → Bool
  | .startText => p.before.isNone
  | .endText => p.behind.isNone
  | .startLine => p.before.isNone || p.before == some '\n'
  | .endLine => p.behind.isNone || p.behind == some '\n'
  | .startLineCrlf =>
    p.before.isNone || p.before == some '\n' || (p.before == some '\r' && p.behind != some '\n')
  | .endLineCrlf =>
    p.behind.isNone || p.behind == some '\r' || (p.behind == some '\n' && p.before != some '\r')
  | .boundary u => isWordChar u p.before != isWordChar u p.behind
  | .notBoundary u => isWordChar u p.before == isWordChar u p.behind
  | .wordStart u => !isWordChar u p.before && isWordChar u p.behind
  | .wordEnd u => isWordChar u p.before && !isWordChar u p.behind
  | .wordStartHalf u => !isWordChar u p.before
  | .wordEndHalf u => !isWordChar u p.behind

end Place

/-! ## Marks -/

abbrev Marks := List Bool

namespace Marks

def areNone (ms : Marks) : Bool := ms.all (!·)

def union (ms ns : Marks) : Marks := ms.zipWith (· || ·) ns

def without (ms ns : Marks) : Marks := ms.zipWith (fun m n => m && !n) ns

def keep (places : List Place) (c : Condition) (ms : Marks) : Marks :=
  ms.zipWith (fun m p => m && p.meets c) places

/-- The places one character behind the marked ones, where that character is wanted. -/
def advance (places : List Place) (wanted : Char → Bool) (ms : Marks) : Marks :=
  false :: (ms.zipWith (fun m p => m && p.behind.any wanted) places).dropLast

/-- Repeats a step from some places, each time from the places that are new, in at most so many
rounds. -/
def spread (step : Marks → Marks) : Nat → (seen new : Marks) → Marks
  | 0, seen, _ => seen
  | n + 1, seen, new =>
    let fresh := (step new).without seen
    if fresh.areNone then seen else spread step n (seen.union fresh) fresh

/-- Takes exactly so many steps. Steps that change nothing need not be taken. -/
def exactly (step : Marks → Marks) : Nat → Marks → Marks
  | 0, ms => ms
  | n + 1, ms =>
    let next := step ms
    if next == ms then ms else exactly step n next

end Marks

mutual

/-- The places at which a match from a marked place may end. -/
def Pattern.reach (places : List Place) : Pattern → Marks → Marks
  | .empty, ms => ms
  | .text cs, ms => cs.foldl (fun ms c => ms.advance places (· == c)) ms
  | .one s, ms => ms.advance places s.has
  | .place c, ms => ms.keep places c
  | .seq ps, ms => Pattern.reachRow places ps ms
  | .alt ps, ms => Pattern.reachAny places ps ms
  | .rep p least most, ms =>
    let first := Marks.exactly (p.reach places) least ms
    let rounds := match most with
      | none => places.length
      | some m => m - least
    Marks.spread (p.reach places) rounds first first
  | .capture p, ms => p.reach places ms

def Pattern.reachRow (places : List Place) : List Pattern → Marks → Marks
  | [], ms => ms
  | p :: ps, ms => Pattern.reachRow places ps (p.reach places ms)

def Pattern.reachAny (places : List Place) : List Pattern → Marks → Marks
  | [], ms => ms.map fun _ => false
  | p :: ps, ms => (p.reach places ms).union (Pattern.reachAny places ps ms)

end

/-! ## Expressions -/

structure Regexp where
  pattern : Pattern
  deriving Repr, Inhabited

/-- Reads a regular expression, which must not take too much room. -/
def Regexp.parse (text : String) : Except Refusal Regexp :=
  match Pattern.parse text.toList with
  | .error e => .error (.faulty e)
  | .ok p => if p.isTooLarge then .error .tooLarge else .ok ⟨p⟩

def Regexp.isMatch (r : Regexp) (text : List Char) : Bool :=
  let places := Place.onwards none text
  !(r.pattern.reach places (places.map fun _ => true)).areNone

end Conformance.Regex
