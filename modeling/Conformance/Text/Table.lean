import Conformance.Text.Split
/-!
# Tables of code points

Tables of the Unicode Character Database are kept as texts.  A text is a list of
words with blanks between them; a word is a code point in hexadecimal, a range
`first-last`, or every second code point of a range, `first-last/2`.
-/
namespace Conformance.Text

def hexValue? (c : Char) : Option Nat :=
  if '0' ≤ c ∧ c ≤ '9' then some (c.toNat - '0'.toNat)
  else if 'a' ≤ c ∧ c ≤ 'f' then some (c.toNat - 'a'.toNat + 10)
  else if 'A' ≤ c ∧ c ≤ 'F' then some (c.toNat - 'A'.toNat + 10)
  else none

/-- The number that hexadecimal digits write. Other characters write nothing. -/
def hexNumber (cs : List Char) : Nat := (cs.filterMap hexValue?).foldl (fun n d => n * 16 + d) 0

/-- The words of a text, given what of the word at hand has been read, the last character first. -/
def wordsFrom : List Char → List Char → List (List Char)
  | [], [] => []
  | word, [] => [word.reverse]
  | word, c :: cs =>
    if c = ' ' ∨ c = '\n' then
      if word.isEmpty then wordsFrom [] cs else word.reverse :: wordsFrom [] cs
    else wordsFrom (c :: word) cs

def tableWords (table : String) : List (List Char) := wordsFrom [] table.toList

/-- Every second code point from `first` on, so many of them. -/
def secondOnes (first : Nat) : Nat → List (Nat × Nat)
  | 0 => []
  | n + 1 => (first, first) :: secondOnes (first + 2) n

def wordRanges (word : List Char) : List (Nat × Nat) :=
  match splitOn '-' word with
  | [lo, hi] => match splitOn '/' hi with
    | [hi] => [(hexNumber lo, hexNumber hi)]
    | hi :: _ => secondOnes (hexNumber lo) ((hexNumber hi - hexNumber lo) / 2 + 1)
    | [] => []
  | _ => [(hexNumber word, hexNumber word)]

def tableRanges (table : String) : List (Nat × Nat) := (tableWords table).flatMap wordRanges

end Conformance.Text
