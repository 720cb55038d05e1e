import Conformance.Json.Stop
import Conformance.Text.Category
/-!
# Words, strings and numbers of a document

The readers here take one token off the front of a text.  Each stops exactly
where a reader of bytes would: an escape takes its four digits as four bytes
whatever they are, and a misspelt word stops behind the first wrong byte.

Strings are read with a budget of steps.  A string takes at least one character a
step, so the length of the text is always enough (`readString` starts with it), and
running out means that the text has ended.
-/
namespace Conformance.Json

def isGap (c : Char) : Bool := c == ' ' || c == '\n' || c == '\t' || c == '\r'

def skipGaps (cs : List Char) : List Char := cs.dropWhile isGap

def word : List Char → List Char → Except Stop (List Char)
  | [], cs => .ok cs
  | _ :: _, [] => .error (stopAt .eofValue [])
  | e :: es, c :: cs => if c = e then word es cs else .error (stopOn .expectedIdent (c :: cs))

def nullTail : List Char := ['u', 'l', 'l']

def trueTail : List Char := ['r', 'u', 'e']

def falseTail : List Char := ['a', 'l', 's', 'e']

/-! ## Strings -/

/-- The four digits of an escape and the text behind them. -/
def hexEscape : List Char → Except Stop (Nat × List Char)
  | cs@(a :: b :: c :: d :: rest) =>
    match Text.hexValue? a, Text.hexValue? b, Text.hexValue? c, Text.hexValue? d with
    | some a, some b, some c, some d => .ok (((a * 16 + b) * 16 + c) * 16 + d, rest)
    | _, _, _, _ => .error ⟨.invalidEscape, Text.byteLength cs - 4⟩
  | cs =>
    if Text.byteLength cs < 4 then .error ⟨.eofString, 0⟩
    else .error ⟨.invalidEscape, Text.byteLength cs - 4⟩

def shortEscape? : Char → Option Char
  | '"' => some '"'
  | '\\' => some '\\'
  | '/' => some '/'
  | 'b' => some '\x08'
  | 'f' => some '\x0c'
  | 'n' => some '\n'
  | 'r' => some '\r'
  | 't' => some '\t'
  | _ => none

/-- The second half of a pair of escapes, behind a first half `high`. -/
def lowHalf (high : Nat) : List Char → Except Stop (Char × List Char)
  | '\\' :: 'u' :: rest => do
    let (low, rest) ← hexEscape rest
    if 0xDC00 ≤ low ∧ low ≤ 0xDFFF then
      .ok (Char.ofNat (0x10000 + (high - 0xD800) * 0x400 + (low - 0xDC00)), rest)
    else .error (stopAt .loneSurrogate rest)
  | ['\\'] => .error ⟨.eofString, 0⟩
  | '\\' :: c :: rest => .error (stopOn .hexEscapeEnd (c :: rest))
  | [] => .error ⟨.eofString, 0⟩
  | c :: rest => .error (stopOn .hexEscapeEnd (c :: rest))

def escape : List Char → Except Stop (Char × List Char)
  | [] => .error ⟨.eofString, 0⟩
  | 'u' :: rest => do
    let (n, rest) ← hexEscape rest
    if 0xDC00 ≤ n ∧ n ≤ 0xDFFF then .error (stopAt .loneSurrogate rest)
    else if 0xD800 ≤ n ∧ n ≤ 0xDBFF then lowHalf n rest
    else .ok (Char.ofNat n, rest)
  | c :: rest => match shortEscape? c with
    | some d => .ok (d, rest)
    | none => .error (stopOn .invalidEscape (c :: rest))

def stringSteps : Nat → List Char → Except Stop (List Char × List Char)
  | 0, _ => .error ⟨.eofString, 0⟩
  | _ + 1, [] => .error ⟨.eofString, 0⟩
  | n + 1, c :: cs =>
    if c = '"' then .ok ([], cs)
    else if c = '\\' then do
      let (d, rest) ← escape cs
      let (ds, rest) ← stringSteps n rest
      .ok (d :: ds, rest)
    else if c.toNat < 0x20 then .error (stopAt .controlCharacter cs)
    else do
      let (ds, rest) ← stringSteps n cs
      .ok (c :: ds, rest)

def readString (cs : List Char) : Except Stop (List Char × List Char) :=
  stringSteps (cs.length + 1) cs

/-! ## Numbers -/

def isDigit (c : Char) : Bool := '0' ≤ c && c ≤ '9'

def digitValue (c : Char) : Nat := c.toNat - '0'.toNat

/-- The largest whole number that is kept exactly. -/
def maxWord64 : Nat := UInt64.size - 1

/-- The number that exponents stay below. -/
def exponentLimit : Nat := UInt32.size / 2

/-- Adds digits to a whole number as long as it fits; the second result counts the digits left
out. -/
def addDigits : List Char → Nat → Nat × Nat
  | [], n => (n, 0)
  | d :: ds, n =>
    if n * 10 + digitValue d ≤ maxWord64 then addDigits ds (n * 10 + digitValue d)
    else (n, ds.length + 1)

/-- Divides by a power of ten in steps that a double can hold. -/
def scaleDown : Nat → Float → Int → Float
  | 0, f, _ => f
  | n + 1, f, e =>
    if -308 ≤ e then f / Float.ofScientific 1 false e.natAbs
    else if f == 0 then f
    else scaleDown n (f / Float.ofScientific 1 false 308) (e + 308)

/-- The double nearest to a significand, times a power of ten. There is none above the largest. -/
def scale? (n : Nat) (e : Int) : Option Float :=
  let f := n.toUInt64.toFloat
  if e < 0 then some (scaleDown e.natAbs f e)
  else if 308 < e then (if f == 0 then some f else none)
  else
    let g := f * Float.ofScientific 1 false e.natAbs
    if g.isInf then none else some g

def doubleOf (negative : Bool) (f : Float) : Number :=
  .double (if negative then (-f).toBits else f.toBits)

def scaled (negative : Bool) (n : Nat) (e : Int) (rest : List Char) :
    Except Stop (Number × List Char) :=
  match scale? n e with
  | some f => .ok (doubleOf negative f, rest)
  | none => .error (stopAt .numberOutOfRange rest)

/-- The digits of an exponent, added up to `e` so far. An exponent that is itself too large makes
the number zero or too large. -/
def exponentDigits (negative : Bool) (n : Nat) (start : Int) (upwards : Bool) :
    List Char → Nat → Except Stop (Number × List Char)
  | [], e => scaled negative n (if upwards then start + e else start - e) []
  | c :: cs, e =>
    if isDigit c then
      let e := e * 10 + digitValue c
      if e < exponentLimit then exponentDigits negative n start upwards cs e
      else if n ≠ 0 ∧ upwards then .error (stopAt .numberOutOfRange cs)
      else .ok (doubleOf negative 0, cs.dropWhile isDigit)
    else scaled negative n (if upwards then start + e else start - e) (c :: cs)

def exponent (negative : Bool) (n : Nat) (start : Int) (cs : List Char) :
    Except Stop (Number × List Char) :=
  let (upwards, cs) := match cs with
    | '+' :: rest => (true, rest)
    | '-' :: rest => (false, rest)
    | _ => (true, cs)
  match cs with
  | [] => .error (stopAt .eofValue [])
  | c :: rest =>
    if isDigit c then exponentDigits negative n start upwards (c :: rest) 0
    else .error (stopOn .invalidNumber (c :: rest))

def places (negative : Bool) (n : Nat) (start : Int) (cs : List Char) :
    Except Stop (Number × List Char) :=
  let ds := cs.takeWhile isDigit
  let rest := cs.dropWhile isDigit
  match ds with
  | [] => match rest with
    | [] => .error (stopOn .eofValue [])
    | _ => .error (stopOn .invalidNumber rest)
  | _ =>
    let (m, left) := addDigits ds n
    let e := start - (ds.length - left : Nat)
    match rest with
    | c :: more =>
      if c = 'e' ∨ c = 'E' then exponent negative m e more else scaled negative m e rest
    | [] => scaled negative m e rest

/-- What follows the whole part `n` of a number of which `left` digits did not fit. -/
def afterWhole (negative : Bool) (n left : Nat) : List Char → Except Stop (Number × List Char)
  | '.' :: rest => places negative n left rest
  | 'e' :: rest => exponent negative n left rest
  | 'E' :: rest => exponent negative n left rest
  | rest =>
    if left ≠ 0 then scaled negative n left rest
    else if !negative then .ok (.natural n, rest)
    else if 1 ≤ n ∧ n ≤ UInt64.size / 2 then .ok (.negative n, rest)
    else .ok (doubleOf true n.toUInt64.toFloat, rest)

def readNumber (negative : Bool) : List Char → Except Stop (Number × List Char)
  | [] => .error (stopAt .eofValue [])
  | '0' :: rest => match rest with
    | c :: _ =>
      if isDigit c then .error (stopOn .invalidNumber rest) else afterWhole negative 0 0 rest
    | [] => afterWhole negative 0 0 rest
  | c :: rest =>
    if isDigit c then
      let (n, left) := addDigits ((c :: rest).takeWhile isDigit) 0
      afterWhole negative n left ((c :: rest).dropWhile isDigit)
    else .error (stopOn .invalidNumber (c :: rest))

/-! ## The wrong token -/

/-- The stop for a value that is not the expected one, at its first character. A value of one token
is taken first; a list or object is not entered. -/
def unexpected (expected : String) : List Char → Stop
  | 'n' :: cs => match word nullTail cs with
    | .ok rest => stopAt (.wrongType .null expected) rest
    | .error s => s
  | 't' :: cs => match word trueTail cs with
    | .ok rest => stopAt (.wrongType (.bool true) expected) rest
    | .error s => s
  | 'f' :: cs => match word falseTail cs with
    | .ok rest => stopAt (.wrongType (.bool false) expected) rest
    | .error s => s
  | '"' :: cs => match readString cs with
    | .ok (s, rest) => stopAt (.wrongType (.string s) expected) rest
    | .error s => s
  | '-' :: cs => match readNumber true cs with
    | .ok (n, rest) => stopAt (.wrongType (.number n) expected) rest
    | .error s => s
  | '[' :: cs => stopAt (.wrongType .list expected) ('[' :: cs)
  | '\x7b' :: cs => stopAt (.wrongType .map expected) ('\x7b' :: cs)
  | [] => stopOn .expectedValue []
  | c :: cs =>
    if isDigit c then match readNumber false (c :: cs) with
      | .ok (n, rest) => stopAt (.wrongType (.number n) expected) rest
      | .error s => s
    else stopOn .expectedValue (c :: cs)

end Conformance.Json
