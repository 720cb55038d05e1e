import Conformance.Decimal.Shortest
import Conformance.Json.Basic
import Conformance.Text.Bytes
import Conformance.Text.Property
/-!
# Where and why reading stops

A reader gives its result and the text behind it.  One that cannot go on says why
(`Cause`) and how many bytes of the text it has not taken (`Stop`).  The line and
column a message shows follow from that number and the text alone, so the readers
carry no position with them.

Some causes are seen by looking at the next byte without taking it.  Such a byte
counts as taken in the position, which makes the column that of the byte itself.

A message that shows a piece of someone's text puts it in double quotes and
escapes what a reader could not see or could mistake: the quote, the backslash,
and every character that shows nothing by itself.
-/
namespace Conformance

namespace Text

def quotedChar (c : Char) : List Char :=
  if c = '"' then ['\\', '"']
  else if c = '\\' then ['\\', '\\']
  else if c = '\n' then ['\\', 'n']
  else if c = '\r' then ['\\', 'r']
  else if c = '\t' then ['\\', 't']
  else if c.toNat = 0 then ['\\', '0']
  else if isInvisible c then
    ['\\', 'u', '\x7b'] ++ Nat.toDigits 16 c.toNat ++ ['\x7d']
  else [c]

def quoted (cs : List Char) : List Char := '"' :: cs.flatMap quotedChar ++ ['"']

end Text

namespace Json

inductive Found where
  | null
  | bool (b : Bool)
  | number (n : Number)
  | string (cs : List Char)
  | list
  | map
  deriving DecidableEq, Repr

inductive Cause where
  | eofValue
  | eofList
  | eofObject
  | eofString
  | expectedValue
  | expectedIdent
  | expectedColon
  | expectedListEnd
  | expectedObjectEnd
  | keyNotString
  | trailingComma
  | trailingCharacters
  | invalidNumber
  | numberOutOfRange
  | invalidEscape
  | hexEscapeEnd
  | loneSurrogate
  | controlCharacter
  | tooDeep
  | wrongType (found : Found) (expected : String)
  | wrongValue (found : Found) (expected : String)
  | duplicateField (key : String)
  | missingField (key : String)
  | wrongLength (length : Nat) (record : String) (size : Nat)
  | unknownVariant (name : String) (known : List String)
  deriving DecidableEq, Repr

def Number.describe : Number → String
  | .natural n => s!"integer `{n}`"
  | .negative n => s!"integer `-{n}`"
  | .double bits => "floating point `" ++ String.ofList (Decimal.doubleText bits) ++ "`"

def Found.describe : Found → String
  | .null => "null"
  | .bool true => "boolean `true`"
  | .bool false => "boolean `false`"
  | .number n => Number.describe n
  | .string cs => "string " ++ String.ofList (Text.quoted cs)
  | .list => "sequence"
  | .map => "map"

def oneOfText : List String → String
  | [] => "nothing"
  | [a] => s!"`{a}`"
  | [a, b] => s!"`{a}` or `{b}`"
  | names => "one of " ++ ", ".intercalate (names.map fun n => s!"`{n}`")

def Cause.message : Cause → String
  | .eofValue => "EOF while parsing a value"
  | .eofList => "EOF while parsing a list"
  | .eofObject => "EOF while parsing an object"
  | .eofString => "EOF while parsing a string"
  | .expectedValue => "expected value"
  | .expectedIdent => "expected ident"
  | .expectedColon => "expected `:`"
  | .expectedListEnd => "expected `,` or `]`"
  | .expectedObjectEnd => "expected `,` or `\x7d`"
  | .keyNotString => "key must be a string"
  | .trailingComma => "trailing comma"
  | .trailingCharacters => "trailing characters"
  | .invalidNumber => "invalid number"
  | .numberOutOfRange => "number out of range"
  | .invalidEscape => "invalid escape"
  | .hexEscapeEnd => "unexpected end of hex escape"
  | .loneSurrogate => "lone leading surrogate in hex escape"
  | .controlCharacter => "control character (\\u0000-\\u001F) found while parsing a string"
  | .tooDeep => "recursion limit exceeded"
  | .wrongType found expected => "invalid type: " ++ found.describe ++ ", expected " ++ expected
  | .wrongValue found expected => "invalid value: " ++ found.describe ++ ", expected " ++ expected
  | .duplicateField key => s!"duplicate field `{key}`"
  | .missingField key => s!"missing field `{key}`"
  | .wrongLength length record size =>
    s!"invalid length {length}, expected struct {record} with {size} element" ++
      (if size = 1 then "" else "s")
  | .unknownVariant name known => s!"unknown variant `{name}`, expected " ++ oneOfText known

/-! ## Stops and their positions -/

/-- A failure to go on, with the number of bytes not taken. -/
structure Stop where
  cause : Cause
  left : Nat
  deriving DecidableEq, Repr

/-- Stops in front of `rest`. -/
def stopAt (cause : Cause) (rest : List Char) : Stop := ⟨cause, Text.byteLength rest⟩

/-- Stops at the first byte of `rest`, which counts as taken. -/
def stopOn (cause : Cause) (rest : List Char) : Stop := ⟨cause, Text.byteLength rest - 1⟩

/-- A failure as a user sees it: lines from one, columns in bytes taken on the line. -/
structure Failure where
  cause : Cause
  line : Nat
  column : Nat
  deriving DecidableEq, Repr

/-- Walks over the first `taken` bytes of a text, counting lines and the bytes since the last line
feed. -/
def walkLines : List Char → (taken line column : Nat) → Nat × Nat
  | [], _, line, column => (line, column)
  | c :: cs, taken, line, column =>
    if taken = 0 then (line, column)
    else if c = '\n' then walkLines cs (taken - 1) (line + 1) 0
    else walkLines cs (taken - c.utf8Size) line (column + min taken c.utf8Size)

def Stop.locate (text : List Char) (s : Stop) : Failure :=
  let (line, column) := walkLines text (Text.byteLength text - s.left) 1 0
  ⟨s.cause, line, column⟩

def Failure.message (f : Failure) : String :=
  f.cause.message ++ s!" at line {f.line} column {f.column}"

end Json

end Conformance
