import Conformance.Json.Token
/-!
# Reading any document

The reader for documents whose form is not known in advance.  Lists and objects
count against a limit of nesting, which is also what the recursion runs on.  Of a
repeated key the last value counts, at every level.

The turns of a list or object (`nextItem`, `nextKey`) are shared with the reader
that follows a schema.
-/
namespace Conformance.Json

/-- Open brackets that a document may hold at once. -/
def depthLimit : Nat := 127

/-! ## The turns of a list or object -/

/-- Where a list or object stands: in front of another item, or behind its end. -/
inductive Turn where
  | more (rest : List Char)
  | over (rest : List Char)
  deriving DecidableEq, Repr

def nextItem (first : Bool) (cs : List Char) : Except Stop Turn :=
  match skipGaps cs with
  | [] => .error (stopOn .eofList [])
  | ']' :: rest => .ok (.over rest)
  | c :: rest =>
    if first then .ok (.more (c :: rest))
    else if c = ',' then
      match skipGaps rest with
      | [] => .error (stopOn .eofValue [])
      | ']' :: rest => .error (stopOn .trailingComma (']' :: rest))
      | rest => .ok (.more rest)
    else .error (stopOn .expectedListEnd (c :: rest))

/-- Looks for the next key of an object and stands behind its opening quote. -/
def nextKey (first : Bool) (cs : List Char) : Except Stop Turn :=
  match skipGaps cs with
  | [] => .error (stopOn .eofObject [])
  | '\x7d' :: rest => .ok (.over rest)
  | c :: rest =>
    if first then
      if c = '"' then .ok (.more rest) else .error (stopOn .keyNotString (c :: rest))
    else if c = ',' then
      match skipGaps rest with
      | [] => .error (stopOn .eofValue [])
      | '"' :: rest => .ok (.more rest)
      | '\x7d' :: rest => .error (stopOn .trailingComma ('\x7d' :: rest))
      | rest => .error (stopOn .keyNotString rest)
    else .error (stopOn .expectedObjectEnd (c :: rest))

def colon (cs : List Char) : Except Stop (List Char) :=
  match skipGaps cs with
  | [] => .error (stopOn .eofObject [])
  | ':' :: rest => .ok rest
  | rest => .error (stopOn .expectedColon rest)

/-- The items of a list, each read by `item`, in at most so many turns. -/
def itemsSteps {α : Type} (item : List Char → Except Stop (α × List Char)) :
    Nat → Bool → List Char → Except Stop (List α × List Char)
  | 0, _, cs => .error (stopOn .eofList cs)
  | n + 1, first, cs => match nextItem first cs with
    | .error s => .error s
    | .ok (.over rest) => .ok ([], rest)
    | .ok (.more rest) => match item rest with
      | .error s => .error s
      | .ok (a, rest) => match itemsSteps item n false rest with
        | .error s => .error s
        | .ok (as, rest) => .ok (a :: as, rest)

def items {α : Type} (item : List Char → Except Stop (α × List Char)) (cs : List Char) :
    Except Stop (List α × List Char) :=
  itemsSteps item (cs.length + 1) true cs

/-- The entries of an object, each value read by `value`, in at most so many turns. -/
def entriesSteps {α : Type} (value : List Char → Except Stop (α × List Char)) :
    Nat → Bool → List Char → Except Stop (List (String × α) × List Char)
  | 0, _, cs => .error (stopOn .eofObject cs)
  | n + 1, first, cs => match nextKey first cs with
    | .error s => .error s
    | .ok (.over rest) => .ok ([], rest)
    | .ok (.more rest) => match readString rest with
      | .error s => .error s
      | .ok (key, rest) => match colon rest with
        | .error s => .error s
        | .ok rest => match value rest with
          | .error s => .error s
          | .ok (a, rest) => match entriesSteps value n false rest with
            | .error s => .error s
            | .ok (as, rest) => .ok ((String.ofList key, a) :: as, rest)

def entries {α : Type} (value : List Char → Except Stop (α × List Char)) (cs : List Char) :
    Except Stop (List (String × α) × List Char) :=
  entriesSteps value (cs.length + 1) true cs

/-! ## Values -/

def token {α : Type} (f : α → Json) :
    Except Stop (α × List Char) → Except Stop (Json × List Char)
  | .ok (a, rest) => .ok (f a, rest)
  | .error s => .error s

def wordValue (j : Json) : Except Stop (List Char) → Except Stop (Json × List Char)
  | .ok rest => .ok (j, rest)
  | .error s => .error s

/-- Reads a value with room for so many open brackets. -/
def readValue : Nat → List Char → Except Stop (Json × List Char)
  | room, cs => match skipGaps cs with
    | [] => .error (stopOn .eofValue [])
    | 'n' :: rest => wordValue .null (word nullTail rest)
    | 't' :: rest => wordValue (.bool true) (word trueTail rest)
    | 'f' :: rest => wordValue (.bool false) (word falseTail rest)
    | '"' :: rest => token (fun s => .string (String.ofList s)) (readString rest)
    | '-' :: rest => token .number (readNumber true rest)
    | '[' :: rest => match room with
      | 0 => .error (stopOn .tooDeep ('[' :: rest))
      | room + 1 => token .array (items (readValue room) rest)
    | '\x7b' :: rest => match room with
      | 0 => .error (stopOn .tooDeep ('\x7b' :: rest))
      | room + 1 => token (fun es => .object (settle es)) (entries (readValue room) rest)
    | c :: rest =>
      if isDigit c then token .number (readNumber false (c :: rest))
      else .error (stopOn .expectedValue (c :: rest))

/-- Nothing but blanks may follow a document. -/
def finish {α : Type} : Except Stop (α × List Char) → Except Stop α
  | .error s => .error s
  | .ok (a, rest) => match skipGaps rest with
    | [] => .ok a
    | rest => .error (stopOn .trailingCharacters rest)

/-- Reads a text by a reader of its value, with the position of a failure. -/
def readDocument {α : Type} (read : List Char → Except Stop (α × List Char)) (text : List Char) :
    Except Failure α :=
  match finish (read text) with
  | .ok a => .ok a
  | .error s => .error (s.locate text)

def readMembers (cs : List Char) : Except Stop (List (String × Json) × List Char) :=
  match skipGaps cs with
  | [] => .error (stopOn .eofValue [])
  | '\x7b' :: rest => match entries (readValue (depthLimit - 1)) rest with
    | .ok (es, rest) => .ok (settle es, rest)
    | .error s => .error s
  | rest => .error (unexpected "a map" rest)

end Conformance.Json
