/-!
# Faults of regular expressions

A regular expression that cannot be read is shown with carets under the part
that is at fault.  An expression over several lines is shown with its lines
numbered.
-/
namespace Conformance.Regex

structure Pos where
  line : Nat
  column : Nat
  deriving DecidableEq, Repr, Inhabited

structure Span where
  start : Pos
  stop : Pos
  deriving DecidableEq, Repr, Inhabited

inductive Fault where
  | classEscape
  | classRange
  | classRangeBound
  | classUnclosed
  | decimalEmpty
  | decimalInvalid
  | hexEmpty
  | hexInvalid
  | hexDigit
  | escapeEnd
  | escapeUnknown
  | flagDangling
  | flagDuplicate
  | flagNegatedTwice
  | flagEnd
  | flagUnknown
  | nameDuplicate
  | nameEmpty
  | nameInvalid
  | nameEnd
  | groupUnclosed
  | groupUnopened
  | countRange
  | countEmpty
  | countUnclosed
  | nothingToRepeat
  | boundaryUnclosed
  | boundaryUnknown
  | boundaryEnd
  | propertyInvalid
  | backreference
  | lookAround
  | nestedTooDeep
  | notText
  | unicodeNotAllowed
  | propertyNotFound
  | propertyValueNotFound
  deriving DecidableEq, Repr

def Fault.message : Fault → String
  | .classEscape => "invalid escape sequence found in character class"
  | .classRange => "invalid character class range, the start must be <= the end"
  | .classRangeBound => "invalid range boundary, must be a literal"
  | .classUnclosed => "unclosed character class"
  | .decimalEmpty => "decimal literal empty"
  | .decimalInvalid => "decimal literal invalid"
  | .hexEmpty => "hexadecimal literal empty"
  | .hexInvalid => "hexadecimal literal is not a Unicode scalar value"
  | .hexDigit => "invalid hexadecimal digit"
  | .escapeEnd => "incomplete escape sequence, reached end of pattern prematurely"
  | .escapeUnknown => "unrecognized escape sequence"
  | .flagDangling => "dangling flag negation operator"
  | .flagDuplicate => "duplicate flag"
  | .flagNegatedTwice => "flag negation operator repeated"
  | .flagEnd => "expected flag but got end of regex"
  | .flagUnknown => "unrecognized flag"
  | .nameDuplicate => "duplicate capture group name"
  | .nameEmpty => "empty capture group name"
  | .nameInvalid => "invalid capture group character"
  | .nameEnd => "unclosed capture group name"
  | .groupUnclosed => "unclosed group"
  | .groupUnopened => "unopened group"
  | .countRange => "invalid repetition count range, the start must be <= the end"
  | .countEmpty => "repetition quantifier expects a valid decimal"
  | .countUnclosed => "unclosed counted repetition"
  | .nothingToRepeat => "repetition operator missing expression"
  | .boundaryUnclosed =>
    "special word boundary assertion is either unclosed or contains an invalid character"
  | .boundaryUnknown =>
    "unrecognized special word boundary assertion, valid choices are: start, end, start-half " ++
      "or end-half"
  | .boundaryEnd =>
    "found either the beginning of a special word boundary or a bounded repetition on a \\b " ++
      "with an opening brace, but no closing brace"
  | .propertyInvalid => "invalid Unicode character class"
  | .backreference => "backreferences are not supported"
  | .lookAround => "look-around, including look-ahead and look-behind, is not supported"
  | .nestedTooDeep => "exceed the maximum number of nested parentheses/brackets (250)"
  | .unicodeNotAllowed => "Unicode not allowed here"
  | .notText => "pattern can match invalid UTF-8"
  | .propertyNotFound => "Unicode property not found"
  | .propertyValueNotFound => "Unicode property value not found"

/-- A fault and where it is; some faults point at an earlier place too. -/
structure Error where
  fault : Fault
  span : Span
  earlier : Option Span := none
  deriving DecidableEq, Repr

/-! ## Showing an error -/

/-- The lines of an expression, given what of the line at hand has been read, the last character
first. A line ends with a line feed, or with a carriage return and a line feed; an end of the text
in front of a line starts none. -/
def linesFrom : List Char → List Char → List (List Char)
  | [], [] => []
  | line, [] => [line.reverse]
  | '\r' :: line, '\n' :: cs => line.reverse :: linesFrom [] cs
  | line, '\n' :: cs => line.reverse :: linesFrom [] cs
  | line, c :: cs => linesFrom (c :: line) cs

def linesOf (pattern : List Char) : List (List Char) := linesFrom [] pattern

def Pos.before (a b : Pos) : Bool :=
  a.line < b.line || (a.line == b.line && a.column < b.column)

/-- Carets under stretches of one line, from column `at_` on. -/
def carets : Nat → List Span → List Char
  | _, [] => []
  | at_, s :: ss =>
    let gap := s.start.column - 1 - at_
    let width := max 1 (s.stop.column - s.start.column)
    List.replicate gap ' ' ++ List.replicate width '^' ++ carets (at_ + gap + width) ss

def Error.spans (e : Error) : List Span :=
  match e.earlier with
  | none => [e.span]
  | some s => if s.start.before e.span.start then [s, e.span] else [e.span, s]

/-- One line of an expression with its number, if lines are numbered, and its carets. -/
def shownLine (width : Nat) (spans : List Span) (number : Nat) (line : List Char) : List Char :=
  let label := toString number
  let lead := if width = 0 then List.replicate 4 ' '
    else List.replicate (width - label.length) ' ' ++ label.toList ++ [':', ' ']
  let here := spans.filter fun s => s.start.line == number && s.stop.line == number
  let marks := if here.isEmpty then []
    else List.replicate (if width = 0 then 4 else 2 + width) ' ' ++ carets 0 here ++ ['\n']
  lead ++ line ++ '\n' :: marks

def shownLines (width : Nat) (spans : List Span) : Nat → List (List Char) → List Char
  | _, [] => []
  | n, l :: ls => shownLine width spans n l ++ shownLines width spans (n + 1) ls

def spanNote (s : Span) : String :=
  s!"on line {s.start.line} (column {s.start.column}) through " ++
    s!"line {s.stop.line} (column {s.stop.column - 1})\n"

def Error.message (pattern : List Char) (e : Error) : String :=
  let lines := linesOf pattern
  let count := if pattern.getLast? == some '\n' then lines.length + 1 else lines.length
  let width := if count ≤ 1 then 0 else (toString count).length
  let body := String.ofList (shownLines width e.spans 1 lines)
  if pattern.contains '\n' then
    let rule := String.ofList (List.replicate 79 '~') ++ "\n"
    let notes := (e.spans.filter fun s => s.start.line != s.stop.line).map spanNote
    "regex parse error:\n" ++ rule ++ body ++ rule ++ String.join notes ++
      "error: " ++ e.fault.message
  else "regex parse error:\n" ++ body ++ "error: " ++ e.fault.message

/-- Why an expression is refused: it cannot be read, or what it stands for is too large. -/
inductive Refusal where
  | faulty (e : Error)
  | tooLarge
  deriving DecidableEq, Repr

def roomLimit : Nat := 10485760

def Refusal.message (pattern : List Char) : Refusal → String
  | .faulty e => e.message pattern
  | .tooLarge => s!"Compiled regex exceeds size limit of {roomLimit} bytes."

end Conformance.Regex
