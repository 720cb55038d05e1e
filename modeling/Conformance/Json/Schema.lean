import Conformance.Json.Free
import Conformance.Json.Skip
/-!
# Reading by a schema

Most documents have a known form.  A `Shape` says what a value may be, and a
`Layout` names the fields of a record: a type `ρ` of record names with a layout
for each is a schema, in which records may nest through their names.  The reader
checks a text against a shape as it goes and gives a `Datum`: exactly the fields of
the layout in its order, those that were absent with their defaults.

A record may be written as an object, where unknown keys are passed over and a
repeated known key is refused, or as a list of its fields in order, where fields
at the end that have a default may be left out.

The recursion runs on the number of brackets that may still be opened, so the
reader is total for every schema, recursive ones included.  `write` is its
counterpart: it gives the JSON value that a datum is written as.
-/
namespace Conformance.Json

inductive Datum where
  | null
  | text (s : String)
  | flag (b : Bool)
  | word (n : UInt32)
  | choice (name : String)
  | list (items : List Datum)
  | record (fields : List Datum)
  deriving Repr, Inhabited

inductive Shape (ρ : Type) where
  /-- A string. -/
  | text
  /-- A boolean. -/
  | flag
  /-- A whole number of 32 bits. -/
  | word
  /-- One of the names; with `other`, every unknown name stands for that one. -/
  | choice (names : List String) (other : Option String)
  /-- A list. -/
  | list (item : Shape ρ)
  /-- A record of the schema. -/
  | record (name : ρ)

structure Field (ρ : Type) where
  key : String
  shape : Shape ρ
  /-- May the value be `null`? -/
  nullable : Bool := false
  /-- The value of a field that is absent. A field without one is required. -/
  absent : Option Datum := none
  /-- Is the field left out of what is written when it is void? -/
  sparse : Bool := false

structure Layout (ρ : Type) where
  name : String
  fields : List (Field ρ)

/-! ## Choices -/

def settleName (names : List String) (other : Option String) (s : String) : Option String :=
  if s ∈ names then some s else other

def readName (names : List String) (other : Option String) (cs : List Char) :
    Except Stop (Datum × List Char) :=
  match readString cs with
  | .error s => .error s
  | .ok (name, rest) => match settleName names other (String.ofList name) with
    | some name => .ok (.choice name, rest)
    | none => .error (stopAt (.unknownVariant (String.ofList name) names) rest)

/-- The `null` that stands for the content of a choice without any. -/
def readUnit (cs : List Char) : Except Stop (List Char) :=
  match skipGaps cs with
  | [] => .error (stopOn .eofValue [])
  | 'n' :: rest => word nullTail rest
  | rest => .error (unexpected "unit" rest)

def closeChoice (d : Datum) (cs : List Char) : Except Stop (Datum × List Char) :=
  match skipGaps cs with
  | [] => .error (stopAt .eofObject [])
  | '\x7d' :: rest => .ok (d, rest)
  | rest => .error (stopAt .expectedValue rest)

/-- A choice written as an object, behind its opening brace: the name as the key and `null` as
the value. -/
def readNameObject (names : List String) (other : Option String) (cs : List Char) :
    Except Stop (Datum × List Char) :=
  match skipGaps cs with
  | [] => .error (stopOn .eofObject [])
  | '"' :: rest => match readName names other rest with
    | .error s => .error s
    | .ok (d, rest) => match colon rest with
      | .error s => .error s
      | .ok rest => match readUnit rest with
        | .error s => .error s
        | .ok rest => closeChoice d rest
  | '\x7d' :: rest => .error (stopOn .expectedValue ('\x7d' :: rest))
  | rest => .error (stopOn .keyNotString rest)

/-! ## Records -/

def closeList (cs : List Char) : Except Stop (List Char) :=
  match skipGaps cs with
  | [] => .error (stopOn .eofList [])
  | ']' :: rest => .ok rest
  | ',' :: rest => match skipGaps rest with
    | ']' :: rest => .error (stopOn .trailingComma (']' :: rest))
    | rest => .error (stopOn .trailingCharacters rest)
  | rest => .error (stopOn .trailingCharacters rest)

/-- The defaults of the fields that a list form left out, in front of `rest`. -/
def absentItems {ρ : Type} (layout : Layout ρ) (rest : List Char) :
    Nat → List (Field ρ) → Except Stop (List Datum)
  | _, [] => .ok []
  | i, f :: fs => match f.absent with
    | none => .error (stopAt (.wrongLength i layout.name layout.fields.length) rest)
    | some d => match absentItems layout rest (i + 1) fs with
      | .error s => .error s
      | .ok ds => .ok (d :: ds)

/-- The fields of a record written as a list, behind its opening bracket. -/
def listForm {ρ : Type} (layout : Layout ρ)
    (value : Field ρ → List Char → Except Stop (Datum × List Char)) :
    Nat → Bool → List (Field ρ) → List Char → Except Stop (List Datum × List Char)
  | _, _, [], cs => match closeList cs with
    | .error s => .error s
    | .ok rest => .ok ([], rest)
  | i, first, f :: fs, cs => match nextItem first cs with
    | .error s => .error s
    | .ok (.over rest) => match absentItems layout rest i (f :: fs) with
      | .error s => .error s
      | .ok ds => .ok (ds, rest)
    | .ok (.more rest) => match value f rest with
      | .error s => .error s
      | .ok (d, rest) => match listForm layout value (i + 1) false fs rest with
        | .error s => .error s
        | .ok (ds, rest) => .ok (d :: ds, rest)

/-- Where an object that is given up on stands: behind the gaps, and behind its end if that is
next. -/
def abandon (cs : List Char) : List Char :=
  match skipGaps cs with
  | '\x7d' :: rest => rest
  | rest => rest

/-- The entries of a record written as an object, in at most so many turns. `seen` holds those
read so far, the last one first. -/
def objectForm {ρ : Type} (layout : Layout ρ)
    (value : Field ρ → List Char → Except Stop (Datum × List Char)) :
    Nat → Bool → List (String × Datum) → List Char →
    Except Stop (List (String × Datum) × List Char)
  | 0, _, _, cs => .error (stopOn .eofObject cs)
  | n + 1, first, seen, cs => match nextKey first cs with
    | .error s => .error s
    | .ok (.over rest) => .ok (seen, rest)
    | .ok (.more rest) => match readString rest with
      | .error s => .error s
      | .ok (key, rest) =>
        let key := String.ofList key
        match layout.fields.find? (·.key == key) with
        | none => match colon rest with
          | .error s => .error s
          | .ok rest => match skipValue rest with
            | .error s => .error s
            | .ok rest => objectForm layout value n false seen rest
        | some f =>
          if (lookup key seen).isSome then .error (stopAt (.duplicateField key) (abandon rest))
          else match colon rest with
            | .error s => .error s
            | .ok rest => match value f rest with
              | .error s => .error s
              | .ok (d, rest) => objectForm layout value n false ((key, d) :: seen) rest

/-- The fields of a record from the entries read, in front of `rest`. -/
def settleFields {ρ : Type} (seen : List (String × Datum)) (rest : List Char) :
    List (Field ρ) → Except Stop (List Datum)
  | [] => .ok []
  | f :: fs => match (lookup f.key seen).or f.absent with
    | none => .error (stopAt (.missingField f.key) rest)
    | some d => match settleFields seen rest fs with
      | .error s => .error s
      | .ok ds => .ok (d :: ds)

def recordObject {ρ : Type} (layout : Layout ρ)
    (value : Field ρ → List Char → Except Stop (Datum × List Char)) (cs : List Char) :
    Except Stop (Datum × List Char) :=
  match objectForm layout value (cs.length + 1) true [] cs with
  | .error s => .error s
  | .ok (seen, rest) => match settleFields seen rest layout.fields with
    | .error s => .error s
    | .ok ds => .ok (.record ds, rest)

def recordList {ρ : Type} (layout : Layout ρ)
    (value : Field ρ → List Char → Except Stop (Datum × List Char)) (cs : List Char) :
    Except Stop (Datum × List Char) :=
  match listForm layout value 0 true layout.fields cs with
  | .error s => .error s
  | .ok (ds, rest) => .ok (.record ds, rest)

/-! ## Values -/

def readText (cs : List Char) : Except Stop (Datum × List Char) :=
  match skipGaps cs with
  | [] => .error (stopOn .eofValue [])
  | '"' :: rest => match readString rest with
    | .ok (s, rest) => .ok (.text (String.ofList s), rest)
    | .error s => .error s
  | rest => .error (unexpected "a string" rest)

def readFlag (cs : List Char) : Except Stop (Datum × List Char) :=
  match skipGaps cs with
  | [] => .error (stopOn .eofValue [])
  | 't' :: rest => match word trueTail rest with
    | .ok rest => .ok (.flag true, rest)
    | .error s => .error s
  | 'f' :: rest => match word falseTail rest with
    | .ok rest => .ok (.flag false, rest)
    | .error s => .error s
  | rest => .error (unexpected "a boolean" rest)

def settleWord : Except Stop (Number × List Char) → Except Stop (Datum × List Char)
  | .error s => .error s
  | .ok (.natural n, rest) =>
    if n < UInt32.size then .ok (.word n.toUInt32, rest)
    else .error (stopAt (.wrongValue (.number (.natural n)) "u32") rest)
  | .ok (.negative n, rest) => .error (stopAt (.wrongValue (.number (.negative n)) "u32") rest)
  | .ok (.double b, rest) => .error (stopAt (.wrongType (.number (.double b)) "u32") rest)

def readWord (cs : List Char) : Except Stop (Datum × List Char) :=
  match skipGaps cs with
  | [] => .error (stopOn .eofValue [])
  | '-' :: rest => settleWord (readNumber true rest)
  | c :: rest =>
    if isDigit c then settleWord (readNumber false (c :: rest))
    else .error (unexpected "u32" (c :: rest))

def nullOr (read : List Char → Except Stop (Datum × List Char)) (nullable : Bool)
    (cs : List Char) : Except Stop (Datum × List Char) :=
  if nullable then
    match skipGaps cs with
    | 'n' :: rest => match word nullTail rest with
      | .ok rest => .ok (.null, rest)
      | .error s => .error s
    | rest => read rest
  else read cs

def readShape {ρ : Type} (schema : ρ → Layout ρ) :
    Nat → Shape ρ → List Char → Except Stop (Datum × List Char)
  | _, .text, cs => readText cs
  | _, .flag, cs => readFlag cs
  | _, .word, cs => readWord cs
  | room, .choice names other, cs => match skipGaps cs with
    | [] => .error (stopOn .eofValue [])
    | '"' :: rest => readName names other rest
    | '\x7b' :: rest => match room with
      | 0 => .error (stopOn .tooDeep ('\x7b' :: rest))
      | _ + 1 => readNameObject names other rest
    | rest => .error (stopOn .expectedValue rest)
  | room, .list item, cs => match skipGaps cs with
    | [] => .error (stopOn .eofValue [])
    | '[' :: rest => match room with
      | 0 => .error (stopOn .tooDeep ('[' :: rest))
      | room + 1 => match items (readShape schema room item) rest with
        | .ok (ds, rest) => .ok (.list ds, rest)
        | .error s => .error s
    | rest => .error (unexpected "a sequence" rest)
  | room, .record r, cs => match skipGaps cs with
    | [] => .error (stopOn .eofValue [])
    | '[' :: rest => match room with
      | 0 => .error (stopOn .tooDeep ('[' :: rest))
      | room + 1 =>
        recordList (schema r) (fun f => nullOr (readShape schema room f.shape) f.nullable) rest
    | '\x7b' :: rest => match room with
      | 0 => .error (stopOn .tooDeep ('\x7b' :: rest))
      | room + 1 =>
        recordObject (schema r) (fun f => nullOr (readShape schema room f.shape) f.nullable) rest
    | rest => .error (unexpected ("struct " ++ (schema r).name) rest)

def readRecord {ρ : Type} (schema : ρ → Layout ρ) (r : ρ) (text : List Char) :
    Except Failure Datum :=
  readDocument (readShape schema depthLimit (.record r)) text

/-! ## Writing -/

/-- Is this what a sparse field leaves out: `null`, or the empty list of a field that is never
`null`? -/
def Field.leavesOut {ρ : Type} (f : Field ρ) : Datum → Bool
  | .null => f.sparse
  | .list [] => f.sparse && !f.nullable
  | _ => false

mutual

/-- The JSON value that a datum of a shape is written as. A datum that does not fit its shape is
written as `null`. -/
def write {ρ : Type} (schema : ρ → Layout ρ) : Shape ρ → Datum → Json
  | _, .null => .null
  | .text, .text s => .string s
  | .flag, .flag b => .bool b
  | .word, .word n => .nat n.toNat
  | .choice _ _, .choice name => .string name
  | .list item, .list ds => .array (writeItems schema item ds)
  | .record r, .record ds => .object (writeFields schema (schema r).fields ds)
  | _, _ => .null

def writeItems {ρ : Type} (schema : ρ → Layout ρ) (item : Shape ρ) : List Datum → List Json
  | [] => []
  | d :: ds => write schema item d :: writeItems schema item ds

/-- The fields of a record as members of an object; sparse fields that are void are left out. -/
def writeFields {ρ : Type} (schema : ρ → Layout ρ) :
    List (Field ρ) → List Datum → List (String × Json)
  | f :: fs, d :: ds =>
    if f.leavesOut d then writeFields schema fs ds
    else (f.key, write schema f.shape d) :: writeFields schema fs ds
  | _, _ => []

end

/-! ## Taking data apart

A schema fixes the form of the data that its reader gives, so the parts of a record are asked for by
what they are known to be.  A datum of another form stands for an empty value; none comes out of a
document that was read. -/

namespace Datum

def asText : Datum → String
  | .text s => s
  | .choice s => s
  | _ => ""

def asFlag : Datum → Bool
  | .flag b => b
  | _ => false

def asWord : Datum → UInt32
  | .word n => n
  | _ => 0

def asOption {α : Type} (f : Datum → α) : Datum → Option α
  | .null => none
  | d => some (f d)

def asList {α : Type} (f : Datum → α) : Datum → List α
  | .list ds => ds.map f
  | _ => []

def ofOption {α : Type} (f : α → Datum) : Option α → Datum
  | none => .null
  | some a => f a

end Datum

end Conformance.Json
