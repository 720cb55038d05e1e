import Conformance.Regex.Fault
/-!
# Regular expressions as written

What an expression says, before its flags have been applied: the tree that
reading its text gives.  Parts that may still turn out to be at fault, such as the
name of a property, keep their place in the text.
-/
namespace Conformance.Regex

/-- The classes that a letter names. -/
inductive ShortClass where
  | digit
  | space
  | word
  deriving DecidableEq, Repr

/-- The classes that are named in brackets and colons. -/
inductive AsciiClass where
  | alnum
  | alpha
  | ascii
  | blank
  | cntrl
  | digit
  | graph
  | lower
  | print
  | punct
  | space
  | upper
  | word
  | xdigit
  deriving DecidableEq, Repr

def AsciiClass.ofName? : String → Option AsciiClass
  | "alnum" => some .alnum
  | "alpha" => some .alpha
  | "ascii" => some .ascii
  | "blank" => some .blank
  | "cntrl" => some .cntrl
  | "digit" => some .digit
  | "graph" => some .graph
  | "lower" => some .lower
  | "print" => some .print
  | "punct" => some .punct
  | "space" => some .space
  | "upper" => some .upper
  | "word" => some .word
  | "xdigit" => some .xdigit
  | _ => none

inductive Property where
  /-- A single letter or a name in braces. -/
  | named (name : String)
  /-- A property and a value of it. -/
  | valued (name value : String) (negated : Bool)
  deriving DecidableEq, Repr

inductive ClassOp where
  | both
  | without
  | either
  deriving DecidableEq, Repr

/-- A character that stands for itself. `asByte` holds of one that is written as a backslash, an x
and two digits, which can mean a byte. -/
structure Literal where
  span : Span
  char : Char
  asByte : Bool := false
  deriving DecidableEq, Repr, Inhabited

inductive ClassItem where
  | literal (l : Literal)
  | range (lo hi : Literal)
  | ascii (span : Span) (kind : AsciiClass) (negated : Bool)
  | short (span : Span) (kind : ShortClass) (negated : Bool)
  | property (span : Span) (p : Property) (negated : Bool)
  | bracketed (span : Span) (negated : Bool) (item : ClassItem)
  | union (span : Span) (items : List ClassItem)
  | combined (span : Span) (op : ClassOp) (left right : ClassItem)
  deriving Repr, Inhabited

def ClassItem.span : ClassItem → Span
  | .literal l => l.span
  | .range lo hi => ⟨lo.span.start, hi.span.stop⟩
  | .ascii s _ _ => s
  | .short s _ _ => s
  | .property s _ _ => s
  | .bracketed s _ _ => s
  | .union s _ => s
  | .combined s _ _ _ => s

inductive Assertion where
  | startLine
  | endLine
  | startText
  | endText
  | boundary
  | notBoundary
  | wordStart
  | wordEnd
  | wordStartHalf
  | wordEndHalf
  deriving DecidableEq, Repr

inductive Flag where
  | ignoreCase
  | multiLine
  | dotAll
  | swapGreed
  | unicode
  | crlf
  | loose
  deriving DecidableEq, Repr

def Flag.ofChar? : Char → Option Flag
  | 'i' => some .ignoreCase
  | 'm' => some .multiLine
  | 's' => some .dotAll
  | 'U' => some .swapGreed
  | 'u' => some .unicode
  | 'R' => some .crlf
  | 'x' => some .loose
  | _ => none

abbrev FlagChanges := List (Flag × Bool)

/-- A regular expression as written. What others can be put into keeps its stretch, and a group
knows whether it is captured. -/
inductive Form where
  | empty
  | flags (changes : FlagChanges)
  | literal (l : Literal)
  | dot (span : Span)
  | assertion (a : Assertion)
  | short (span : Span) (kind : ShortClass) (negated : Bool)
  | property (span : Span) (p : Property) (negated : Bool)
  | bracketed (item : ClassItem)
  | repeated (span : Span) (s : Form) (least : Nat) (most : Option Nat)
  | group (span : Span) (captured : Bool) (changes : FlagChanges) (s : Form)
  | oneOf (span : Span) (branches : List Form)
  | inRow (span : Span) (parts : List Form)
  deriving Repr, Inhabited

/-! ## Nesting -/

def nestLimit : Nat := 250

mutual

/-- The first part of an item that is nested too deep, inside so many others. -/
def ClassItem.tooDeep? (depth : Nat) : ClassItem → Option Span
  | .bracketed span _ i => if nestLimit ≤ depth then some span else i.tooDeep? (depth + 1)
  | .union _ [] => none
  | .union span (i :: is) =>
    if nestLimit ≤ depth then some span
    else (i.tooDeep? (depth + 1)).or (ClassItem.anyTooDeep? (depth + 1) is)
  | .combined span _ i j =>
    if nestLimit ≤ depth then some span
    else (i.tooDeep? (depth + 1)).or (j.tooDeep? (depth + 1))
  | _ => none

def ClassItem.anyTooDeep? (depth : Nat) : List ClassItem → Option Span
  | [] => none
  | i :: is => (i.tooDeep? depth).or (ClassItem.anyTooDeep? depth is)

end

mutual

/-- The first part of an expression that is nested too deep, inside so many others. -/
def Form.tooDeep? (depth : Nat) : Form → Option Span
  | .bracketed i => i.tooDeep? depth
  | .repeated span s _ _ => if nestLimit ≤ depth then some span else s.tooDeep? (depth + 1)
  | .group span _ _ s => if nestLimit ≤ depth then some span else s.tooDeep? (depth + 1)
  | .oneOf span ss => if nestLimit ≤ depth then some span else Form.anyTooDeep? (depth + 1) ss
  | .inRow span ss => if nestLimit ≤ depth then some span else Form.anyTooDeep? (depth + 1) ss
  | _ => none

def Form.anyTooDeep? (depth : Nat) : List Form → Option Span
  | [] => none
  | s :: ss => (s.tooDeep? depth).or (Form.anyTooDeep? depth ss)

end

end Conformance.Regex
