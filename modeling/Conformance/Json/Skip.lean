import Conformance.Json.Token
/-!
# Skipping a value

The value of a key that nobody asked for is passed over, not kept.  Its form is
still checked, but only its form: a skipped number may have any size, a skipped
escape may be half a pair, and nesting has no limit, because the open brackets
are kept in a list.

The loop alternates between the start of a value (`skipSteps`) and what follows a
complete one (`afterValue`), which closes brackets until the text asks for
another value or the first one is complete.
-/
namespace Conformance.Json

inductive Bracket where
  | list
  | object
  deriving DecidableEq, Repr

def Bracket.close : Bracket → Char
  | .list => ']'
  | .object => '\x7d'

def Bracket.eof : Bracket → Cause
  | .list => .eofList
  | .object => .eofObject

def Bracket.expectedEnd : Bracket → Cause
  | .list => .expectedListEnd
  | .object => .expectedObjectEnd

/-! ## Tokens passed over -/

def skipStringSteps : Nat → List Char → Except Stop (List Char)
  | 0, _ => .error ⟨.eofString, 0⟩
  | _ + 1, [] => .error ⟨.eofString, 0⟩
  | n + 1, c :: cs =>
    if c = '"' then .ok cs
    else if c = '\\' then
      match cs with
      | [] => .error ⟨.eofString, 0⟩
      | 'u' :: rest => match hexEscape rest with
        | .ok (_, rest) => skipStringSteps n rest
        | .error s => .error s
      | d :: rest => match shortEscape? d with
        | some _ => skipStringSteps n rest
        | none => .error (stopOn .invalidEscape (d :: rest))
    else if c.toNat < 0x20 then .error (stopAt .controlCharacter (c :: cs))
    else skipStringSteps n cs

def skipString (cs : List Char) : Except Stop (List Char) := skipStringSteps (cs.length + 1) cs

def skipExponent (cs : List Char) : Except Stop (List Char) :=
  let cs := match cs with
    | '+' :: rest => rest
    | '-' :: rest => rest
    | _ => cs
  match cs with
  | [] => .error (stopAt .invalidNumber [])
  | c :: rest =>
    if isDigit c then .ok (rest.dropWhile isDigit) else .error (stopOn .invalidNumber (c :: rest))

def skipFraction : List Char → Except Stop (List Char)
  | '.' :: rest =>
    if (rest.takeWhile isDigit).isEmpty then .error (stopOn .invalidNumber rest)
    else match rest.dropWhile isDigit with
      | 'e' :: rest => skipExponent rest
      | 'E' :: rest => skipExponent rest
      | rest => .ok rest
  | 'e' :: rest => skipExponent rest
  | 'E' :: rest => skipExponent rest
  | rest => .ok rest

def skipNumber : List Char → Except Stop (List Char)
  | [] => .error (stopAt .invalidNumber [])
  | '0' :: rest => match rest with
    | c :: _ => if isDigit c then .error (stopOn .invalidNumber rest) else skipFraction rest
    | [] => .ok []
  | c :: rest =>
    if isDigit c then skipFraction (rest.dropWhile isDigit)
    else .error (stopOn .invalidNumber (c :: rest))

/-! ## Values passed over -/

/-- What the text asks for next: another value inside the open brackets, or nothing. -/
inductive Next where
  | done (rest : List Char)
  | value (opened : List Bracket) (rest : List Char)

/-- What stands in front of a value in a bracket: nothing in a list, a key and a colon in an
object. -/
def skipKey : Bracket → List Char → Except Stop (List Char)
  | .list, cs => .ok cs
  | .object, cs => match skipGaps cs with
    | [] => .error (stopOn .eofObject [])
    | '"' :: rest => match skipString rest with
      | .error s => .error s
      | .ok rest => match skipGaps rest with
        | [] => .error (stopOn .eofObject [])
        | ':' :: rest => .ok rest
        | rest => .error (stopOn .expectedColon rest)
    | rest => .error (stopOn .keyNotString rest)

def askValue (b : Bracket) (bs : List Bracket) (cs : List Char) : Except Stop Next :=
  match skipKey b cs with
  | .ok rest => .ok (.value (b :: bs) rest)
  | .error s => .error s

/-- What follows a complete value: a comma and another one, or the end of the innermost bracket,
which is then itself a complete value. -/
def afterValue : List Bracket → List Char → Except Stop Next
  | [], cs => .ok (.done cs)
  | b :: bs, cs => match skipGaps cs with
    | [] => .error (stopOn b.eof [])
    | c :: rest =>
      if c = ',' then askValue b bs rest
      else if c = b.close then afterValue bs rest
      else .error (stopOn b.expectedEnd (c :: rest))

/-- What follows an opening bracket: its end, or a first value. -/
def afterOpen (b : Bracket) (bs : List Bracket) (cs : List Char) : Except Stop Next :=
  match skipGaps cs with
  | [] => .error (stopOn b.eof [])
  | c :: rest => if c = b.close then afterValue bs rest else askValue b bs (c :: rest)

def skipToken (bs : List Bracket) (cs : List Char) : Except Stop Next :=
  let complete (r : Except Stop (List Char)) : Except Stop Next :=
    match r with
    | .ok rest => afterValue bs rest
    | .error s => .error s
  match skipGaps cs with
  | [] => .error (stopOn .eofValue [])
  | 'n' :: rest => complete (word nullTail rest)
  | 't' :: rest => complete (word trueTail rest)
  | 'f' :: rest => complete (word falseTail rest)
  | '"' :: rest => complete (skipString rest)
  | '-' :: rest => complete (skipNumber rest)
  | '[' :: rest => afterOpen .list bs rest
  | '\x7b' :: rest => afterOpen .object bs rest
  | c :: rest =>
    if isDigit c then complete (skipNumber (c :: rest))
    else .error (stopOn .expectedValue (c :: rest))

def skipSteps : Nat → List Bracket → List Char → Except Stop (List Char)
  | 0, _, cs => .error (stopOn .eofValue cs)
  | n + 1, bs, cs => match skipToken bs cs with
    | .error s => .error s
    | .ok (.done rest) => .ok rest
    | .ok (.value bs rest) => skipSteps n bs rest

/-- Passes over a value. A token takes at least one character, so the text is long enough. -/
def skipValue (cs : List Char) : Except Stop (List Char) := skipSteps (cs.length + 1) [] cs

end Conformance.Json
