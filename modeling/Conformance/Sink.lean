import Conformance.Path.Project
import Conformance.Text.Split
import Conformance.Tree.SourceFile
/-!
# Trusted types and their sinks

A place that asks for a trusted type is a sink: what reaches it must have been
made by a policy.  A type is known by where it is declared and by its full name,
both at once, because anybody may declare a type of the same name.
-/
namespace Conformance

/-- How a trusted type is recognised. -/
structure Sink where
  /-- What the path of the declaring file ends with. -/
  moduleEnding : String
  /-- The full name of the type. -/
  name : String
  deriving DecidableEq, Repr

inductive SinkError where
  | notADeclarationFile (ending : String)
  | emptyName
  deriving DecidableEq, Repr

def SinkError.message : SinkError → String
  | .notADeclarationFile ending =>
    s!"module path suffix '{ending}' does not name a declaration file"
  | .emptyName => "fully qualified name must not be empty"

namespace Sink

/-- A sink by its description, if that makes sense. -/
def make (moduleEnding name : String) : Except SinkError Sink :=
  if !isDeclarationName moduleEnding.toList then .error (.notADeclarationFile moduleEnding)
  else if (Text.trim name.toList).isEmpty then .error .emptyName
  else .ok ⟨moduleEnding, name⟩

def isDeclaredBy (s : Sink) (d : TypeDeclaration) : Bool :=
  d.qualifiedName == s.name &&
    s.moduleEnding.toList.isSuffixOf (ProjectPath.forwardSlashes d.file.toList)

def matchesType (s : Sink) (t : TypeInfo) : Bool := t.declarations.any s.isDeclaredBy

/-- Is this the trusted type, or a union in which it appears? -/
def appearsIn (s : Sink) (t : TypeInfo) : Bool := t.constituents.any s.matchesType

end Sink

inductive TrustedKind where
  | html
  | script
  | scriptUrl
  deriving DecidableEq, Repr

namespace TrustedKind

def typeName : TrustedKind → String
  | .html => "TrustedHTML"
  | .script => "TrustedScript"
  | .scriptUrl => "TrustedScriptURL"

def all : List TrustedKind := [.html, .script, .scriptUrl]

/-- How a trusted type is recognised: by the package that declares it globally. -/
def sink (k : TrustedKind) : Sink :=
  ⟨"/@types/trusted-types/index.d.ts", "global." ++ k.typeName⟩

end TrustedKind

end Conformance
