import Conformance.Diagnostic
import Conformance.Exemption.Entry
import Conformance.Json.Free
import Conformance.Text.Split
/-!
# Exemption files

An exemption file maps the names of rules to an entry or a list of entries.
Whatever is wrong with it makes the run stricter, never laxer: a file that is no
JSON object exempts nothing, and a rule whose value has a fault anywhere gets
none of its exemptions.  Each fault is a diagnostic.
-/
namespace Conformance

/-- The exemptions of a file, and what is wrong with it. -/
structure ParsedExemptions where
  list : ExemptionList := {}
  diagnostics : List Diagnostic := []
  deriving Repr, Inhabited

def ParsedExemptions.isClean (p : ParsedExemptions) : Bool := p.diagnostics.isEmpty

namespace ExemptionFile

/-! ## The form of entries -/

def strings? : List Json → Option (List String)
  | [] => some []
  | .string s :: js => (strings? js).map (s :: ·)
  | _ => none

def stringList? : Json → Option (List String)
  | .array js => strings? js
  | _ => none

def reason? : Json → Option (Option String)
  | .null => some none
  | .string s => some (some s)
  | _ => none

def setPart (t : ExemptionText) (key : String) (value : Json) : Option ExemptionText :=
  match key with
  | "reason" => (reason? value).map fun r => { t with reason := r }
  | "paths" => (stringList? value).map fun l => { t with paths := l }
  | "prefixes" => (stringList? value).map fun l => { t with prefixes := l }
  | "regexps" => (stringList? value).map fun l => { t with regexps := l }
  | _ => none

def setParts : ExemptionText → List (String × Json) → Option ExemptionText
  | t, [] => some t
  | t, (key, value) :: rest => (setPart t key value).bind (setParts · rest)

/-- An entry out of a value: an object of its parts, or a list of them in order. -/
def entryOf? : Json → Option ExemptionText
  | .object members => setParts {} members
  | .array items =>
    if items.length ≤ 4 then setParts {} (["reason", "paths", "prefixes", "regexps"].zip items)
    else none
  | _ => none

def entriesOf? : List Json → Option (List ExemptionText)
  | [] => some []
  | j :: js => match entryOf? j, entriesOf? js with
    | some e, some es => some (e :: es)
    | _, _ => none

/-- The entries of a rule: one entry if the value has its form, else a list of entries. -/
def entries? (value : Json) : Option (List ExemptionText) :=
  match entryOf? value with
  | some e => some [e]
  | none => match value with
    | .array items => entriesOf? items
    | _ => none

/-! ## Faults and their places -/

/-- The bytes of the first lines of a text, and what follows them. -/
def skipLines : Nat → List Char → Nat × List Char
  | 0, cs => (0, cs)
  | _ + 1, [] => (0, [])
  | n + 1, c :: cs =>
    let (bytes, rest) := skipLines (if c = '\n' then n else n + 1) cs
    (c.utf8Size + bytes, rest)

/-- The byte offset of a line and column that are counted from one. -/
def offsetOf (text : List Char) (line column : Nat) : Nat :=
  let (bytes, rest) := skipLines (line - 1) text
  bytes + Text.byteLength (rest.take (column - 1))

/-- Looks for a quoted name that a colon follows, with the character before, the byte offset here,
and how many characters of the last occurrence are still to be passed over. A quote behind a
backslash opens no name. -/
def findKey (name : List Char) (before : Option Char) (offset : Nat) : Nat → List Char → Option Nat
  | _, [] => none
  | skip + 1, c :: cs => findKey name (some c) (offset + c.utf8Size) skip cs
  | 0, c :: cs =>
    if name.isPrefixOf (c :: cs) then
      if before ≠ some '\\' ∧
          (Text.trimStart ((c :: cs).drop name.length)).head? = some ':' then some offset
      else findKey name (some c) (offset + c.utf8Size) (name.length - 1) cs
    else findKey name (some c) (offset + c.utf8Size) 0 cs

/-- The byte offset of a key, where its quoted name stands in front of a colon. -/
def keyOffset? (text : List Char) (key : String) : Option Nat :=
  findKey ('"' :: key.toList ++ ['"']) none 0 0 text

def diagnosticAt (file : ProjectPath) (text : List Char) (offset : UInt32) (message : String) :
    Diagnostic :=
  { Diagnostic.globalError Diagnostic.exemptionCode message with
    location := some
      { path := file, start := offset, length := 0, position := Text.positionScan text offset } }

/-- A fault of a rule's value, at its key if that can be found. -/
def keyDiagnostic (file : ProjectPath) (text : List Char) (key message : String) : Diagnostic :=
  match keyOffset? text key with
  | some offset => diagnosticAt file text offset.toUInt32 message
  | none => Diagnostic.globalError Diagnostic.exemptionCode message

/-! ## The whole file -/

/-- Reads entries, all or none. -/
def buildAll : List ExemptionText → Except ExemptionError (List ExemptionEntry)
  | [] => .ok []
  | t :: ts => match ExemptionEntry.ofText t with
    | .error e => .error e
    | .ok e => match buildAll ts with
      | .error err => .error err
      | .ok es => .ok (e :: es)

def ruleEntries (rule : String) (value : Json) : Except String (List ExemptionEntry) :=
  let refused := s!"Invalid exemption for rule '{rule}': "
  match entries? value with
  | none => .error (refused ++ "expected an entry object or an array of entries with 'reason', " ++
      "'paths', 'prefixes', or 'regexps'.")
  | some texts => match buildAll texts with
    | .error e => .error (refused ++ e.message)
    | .ok entries => .ok entries

def addRule (file : ProjectPath) (text : List Char) (p : ParsedExemptions)
    (member : String × Json) : ParsedExemptions :=
  match ruleEntries member.1 member.2 with
  | .ok entries => { p with list := entries.foldl (fun l e => l.insert member.1 e) p.list }
  | .error message =>
    { p with diagnostics := p.diagnostics ++ [keyDiagnostic file text member.1 message] }

/-- Reads an exemption file. Rules are taken in the order of their names. -/
def parse (file : ProjectPath) (text : String) : ParsedExemptions :=
  let chars := text.toList
  match Json.readDocument Json.readMembers chars with
  | .error f =>
    { diagnostics := [diagnosticAt file chars (offsetOf chars f.line f.column).toUInt32
        ("Failed to parse exemption config: " ++ f.message)] }
  | .ok members =>
    (members.mergeSort fun a b => Text.le a.1.toList b.1.toList).foldl (addRule file chars) {}

end ExemptionFile

end Conformance
