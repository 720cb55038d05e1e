import Conformance.Exemption.Entry
import Conformance.Hash.Sha256
import Conformance.Rule.Catalog
/-!
# The conformance pass

All rules over a whole program, and what they found beside what the type checker
had to say.  The checker's diagnostics come first; then file by file, in the order
of the roots, what the rules found in it.  Nothing is merged or left out.

A defect of a tree ends the pass, so does a rule that is listed twice, and so does
a line or a column that is to be shown and has outgrown a word.
-/
namespace Conformance

inductive PassError where
  | duplicateRule (name : String)
  | defect (d : Defect)
  | overflow (o : Text.Overflow)
  deriving DecidableEq, Repr

def PassError.message : PassError → String
  | .duplicateRule name => s!"rule '{name}' appears more than once in the enabled rule list"
  | .defect d => d.message
  | .overflow o => o.message

/-! ## Findings as diagnostics -/

def utf8Bytes (s : String) : List UInt8 := s.toList.flatMap String.utf8EncodeChar

/-- What the fingerprint of a finding is taken of: its identity, in one text. -/
def fingerprintText (rule path : String) (line col : UInt32) (message : String) : String :=
  "|".intercalate [rule, path, toString line.toNat, toString col.toNat, message]

def fingerprint (rule path : String) (line col : UInt32) (message : String) : String :=
  Sha256.hexDigest (utf8Bytes (fingerprintText rule path line col message))

/-- The message of a finding with its fixes in words. -/
def Finding.fullMessage (f : Finding) (file : SourceFile) : Except Text.Overflow String := do
  match ← Fix.render f.report.fixes file.position with
  | none => return f.report.message
  | some fixes => return f.report.message ++ "\n" ++ fixes

def Finding.diagnosticAt (f : Finding) (position : Text.Position) (message : String) : Diagnostic :=
  let length := if f.report.start ≤ f.report.stop then f.report.stop - f.report.start else 0
  { severity := f.severity
    code := f.rule.code
    message := message
    location := some
      { path := f.file, start := f.report.start, length := length, position := position }
    rule := some f.rule.name
    fingerprint := some (fingerprint f.rule.name f.file.text position.line position.col message) }

def Finding.toDiagnostic (file : SourceFile) (f : Finding) : Except Text.Overflow Diagnostic := do
  let position ← file.position f.report.start
  let message ← f.fullMessage file
  return f.diagnosticAt position message

/-! ## The pass -/

/-- The first rule that is listed again after it. -/
def firstRepeated? : List Rule → List Rule → Option Rule
  | _, [] => none
  | seen, r :: rs => if r ∈ seen then some r else firstRepeated? (r :: seen) rs

def registrationsOf (rules : List Rule) (exemptions : ExemptionList) : List Registration :=
  rules.flatMap fun r =>
    (r.exemptHandlers (exemptions.isExempt r.name)).map fun h => ⟨h.1, r.id, h.2⟩

def fileDiagnostics (c : Checker) (file : SourceFile) : Except PassError (List Diagnostic) := do
  let found ← (c.findings file).mapError .defect
  (found.mapM (Finding.toDiagnostic file)).mapError .overflow

def checkerOf (program : Program) (rules : List Rule) (exemptions : ExemptionList) : Checker :=
  .ofRegistrations program (registrationsOf rules exemptions)

def runRules (program : Program) (rules : List Rule) (exemptions : ExemptionList) :
    Except PassError (List Diagnostic) :=
  match firstRepeated? [] rules with
  | some r => .error (.duplicateRule r.name)
  | none => do
    let known ← program.preEmit.mapError .overflow
    let found ← program.files.mapM (fileDiagnostics (checkerOf program rules exemptions))
    return known ++ found.flatten

end Conformance
