import Conformance.Json.Basic
import Conformance.Path.Project
import Conformance.Text.Lines
/-!
# Diagnostics

One shape for everything a run has to say, whoever found it.  What the type
checker found and what the rules found differ only in that a rule's diagnostic
names its rule and carries a fingerprint.
-/
namespace Conformance

inductive Severity where
  | error
  | warning
  | suggestion
  | message
  deriving DecidableEq, Repr, Inhabited

def Severity.name : Severity → String
  | .error => "error"
  | .warning => "warning"
  | .suggestion => "suggestion"
  | .message => "message"

def Severity.all : List Severity := [.error, .warning, .suggestion, .message]

/-- The severity with a name; an unknown name is an error's. -/
def Severity.ofName (s : String) : Severity := (Severity.all.find? (·.name == s)).getD .error

structure Location where
  path : ProjectPath
  /-- Byte offset of the first character. -/
  start : UInt32
  /-- Bytes covered. -/
  length : UInt32
  position : Text.Position
  deriving DecidableEq, Repr, Inhabited

structure Diagnostic where
  severity : Severity
  code : UInt32
  message : String
  location : Option Location := none
  /-- The rule that found it; none for the type checker and the tool itself. -/
  rule : Option String := none
  /-- A stable identity of what a rule found. -/
  fingerprint : Option String := none
  deriving DecidableEq, Repr, Inhabited

/-! ## The tool itself -/

/-- The name under which the tool appears in what it reads and writes. -/
def toolName : String := "tsconform"

def toolVersion : String := "0.1.0"

def Diagnostic.exemptionCode : UInt32 := 21220

def Diagnostic.invalidTreeCode : UInt32 := 21221

def Diagnostic.configCode : UInt32 := 5083

def Diagnostic.notFoundCode : UInt32 := 6053

def Diagnostic.emitCode : UInt32 := 5033

namespace Diagnostic

/-- An error without a place. -/
def globalError (code : UInt32) (message : String) : Diagnostic :=
  { severity := .error, code := code, message := message }

/-- Did a rule find this? -/
def isConformance (d : Diagnostic) : Bool := d.rule.isSome

def anyError (ds : List Diagnostic) : Bool := ds.any (·.severity == .error)

def locationJson (l : Location) : Json :=
  .object [("path", .string l.path.text), ("start", .nat l.start.toNat),
    ("length", .nat l.length.toNat), ("line", .nat l.position.line.toNat),
    ("col", .nat l.position.col.toNat)]

/-- A member that is left out when it is absent. -/
def optionalMember {α : Type} (key : String) (f : α → Json) : Option α → List (String × Json)
  | none => []
  | some a => [(key, f a)]

def toJson (d : Diagnostic) : Json :=
  .object ([("category", .string d.severity.name), ("code", .nat d.code.toNat),
      ("message", .string d.message)] ++
    optionalMember "location" locationJson d.location ++
    optionalMember "rule" .string d.rule ++
    optionalMember "fingerprint" .string d.fingerprint)

end Diagnostic

/-! ## Counts -/

/-- How many diagnostics there are, by origin, and how many of them are errors. -/
structure Counts where
  compiler : Nat
  conformance : Nat
  errors : Nat
  total : Nat
  deriving DecidableEq, Repr

def Counts.of (ds : List Diagnostic) : Counts where
  compiler := ds.countP (fun d => !d.isConformance)
  conformance := ds.countP (·.isConformance)
  errors := ds.countP (·.severity == .error)
  total := ds.length

theorem Counts.compiler_add_conformance (ds : List Diagnostic) :
    (Counts.of ds).compiler + (Counts.of ds).conformance = (Counts.of ds).total := by
  have h := List.length_eq_countP_add_countP (fun d : Diagnostic => d.isConformance) (l := ds)
  simp only [Bool.not_eq_true, Bool.decide_eq_false] at h
  simp only [Counts.of]
  omega

def Counts.toJson (c : Counts) : Json :=
  .object [("compiler", .nat c.compiler), ("conformance", .nat c.conformance),
    ("errors", .nat c.errors), ("total", .nat c.total)]

end Conformance
