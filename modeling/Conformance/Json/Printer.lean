import Conformance.Decimal.Shortest
import Conformance.Json.Basic
/-!
# Writing JSON

Two forms of one value: `compact` without a blank, for passing on, and `pretty`
with a line for each item, indented by two blanks a level, for reading.  Both
write members in their order and escape only what a string may not hold: quotes,
backslashes and control characters.
-/
namespace Conformance.Json

def hexDigit (n : Nat) : Char := Nat.digitChar n

def escapedChar (c : Char) : List Char :=
  if c = '"' then ['\\', '"']
  else if c = '\\' then ['\\', '\\']
  else if c = '\x08' then ['\\', 'b']
  else if c = '\t' then ['\\', 't']
  else if c = '\n' then ['\\', 'n']
  else if c = '\x0c' then ['\\', 'f']
  else if c = '\r' then ['\\', 'r']
  else if c.toNat < 0x20 then
    ['\\', 'u', '0', '0', hexDigit (c.toNat / 16), hexDigit (c.toNat % 16)]
  else [c]

def stringText (s : String) : List Char := '"' :: s.toList.flatMap escapedChar ++ ['"']

def numberText : Number → List Char
  | .natural n => Nat.toDigits 10 n
  | .negative n => '-' :: Nat.toDigits 10 n
  | .double bits => Decimal.doubleText bits

mutual

def compact : Json → List Char
  | .null => ['n', 'u', 'l', 'l']
  | .bool true => ['t', 'r', 'u', 'e']
  | .bool false => ['f', 'a', 'l', 's', 'e']
  | .number n => numberText n
  | .string s => stringText s
  | .array js => '[' :: compactItems true js
  | .object ms => '\x7b' :: compactMembers true ms

/-- The rest of a list without blanks, up to its end. -/
def compactItems : Bool → List Json → List Char
  | _, [] => [']']
  | first, j :: js => (if first then [] else [',']) ++ compact j ++ compactItems false js

def compactMembers : Bool → List (String × Json) → List Char
  | _, [] => ['\x7d']
  | first, (k, j) :: ms =>
    (if first then [] else [',']) ++ stringText k ++ ':' :: compact j ++ compactMembers false ms

end

def newline (level : Nat) : List Char := '\n' :: List.replicate (2 * level) ' '

mutual

def prettyAt : Nat → Json → List Char
  | _, .null => ['n', 'u', 'l', 'l']
  | _, .bool true => ['t', 'r', 'u', 'e']
  | _, .bool false => ['f', 'a', 'l', 's', 'e']
  | _, .number n => numberText n
  | _, .string s => stringText s
  | _, .array [] => ['[', ']']
  | level, .array js => '[' :: prettyItems level true js
  | _, .object [] => ['\x7b', '\x7d']
  | level, .object ms => '\x7b' :: prettyMembers level true ms

/-- The rest of a list over several lines, up to its end. -/
def prettyItems : Nat → Bool → List Json → List Char
  | level, _, [] => newline level ++ [']']
  | level, first, j :: js =>
    (if first then [] else [',']) ++ newline (level + 1) ++ prettyAt (level + 1) j ++
      prettyItems level false js

def prettyMembers : Nat → Bool → List (String × Json) → List Char
  | level, _, [] => newline level ++ ['\x7d']
  | level, first, (k, j) :: ms =>
    (if first then [] else [',']) ++ newline (level + 1) ++ stringText k ++ ':' :: ' ' ::
      prettyAt (level + 1) j ++ prettyMembers level false ms

end

def pretty (j : Json) : List Char := prettyAt 0 j

end Conformance.Json
