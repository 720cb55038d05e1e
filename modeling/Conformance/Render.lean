import Conformance.Diagnostic
/-!
# Diagnostics for reading

Two forms of a list of diagnostics.  The text form has a line for each of them as
compilers print it, and a summary that counts the errors.  The other form is a
list of annotations, commands in which a build service finds the place of each.

An annotation is one line whatever the diagnostic holds: per cent signs and line
ends are written as escapes, and in paths so are the marks that divide a command.
-/
namespace Conformance

namespace Diagnostic

def line (d : Diagnostic) : String :=
  let head := d.severity.name ++ " TS" ++ toString d.code.toNat ++ ": " ++ d.message
  match d.location with
  | none => head
  | some l => s!"{l.path.text}({l.position.line.toNat},{l.position.col.toNat}): " ++ head

def summary (count : Nat) : String :=
  if count = 1 then "Found 1 error." else s!"Found {count} errors."

/-- Diagnostics as text: a line for each, an empty line if there are any, and the summary. -/
def renderText (ds : List Diagnostic) : String :=
  String.join (ds.map fun d => d.line ++ "\n") ++ (if ds.isEmpty then "" else "\n") ++
    summary (ds.countP (·.severity == .error)) ++ "\n"

/-! ## Annotations -/

def annotationLevel : Severity → String
  | .error => "error"
  | .warning => "warning"
  | .suggestion => "notice"
  | .message => "notice"

def escapeInText (c : Char) : List Char :=
  if c = '%' then ['%', '2', '5']
  else if c = '\r' then ['%', '0', 'D']
  else if c = '\n' then ['%', '0', 'A']
  else [c]

def escapeInPath (c : Char) : List Char :=
  if c = ':' then ['%', '3', 'A']
  else if c = ',' then ['%', '2', 'C']
  else escapeInText c

/-- The name that an annotation puts before a message: the rule, or else the code. -/
def tag (d : Diagnostic) : String := d.rule.getD ("TS" ++ toString d.code.toNat)

def annotationPlace (l : Location) : List Char :=
  " file=".toList ++ l.path.chars.flatMap escapeInPath ++
    s!",line={l.position.line.toNat},col={l.position.col.toNat}".toList

def annotation (d : Diagnostic) : String :=
  String.ofList ("::".toList ++ (annotationLevel d.severity).toList ++
    (d.location.map annotationPlace).getD [] ++ "::".toList ++
    ("[" ++ d.tag ++ "] " ++ d.message).toList.flatMap escapeInText)

def renderAnnotations (ds : List Diagnostic) : List String := ds.map annotation

end Diagnostic

end Conformance
