import Conformance.Checker
import Conformance.Sink
/-!
# Plain strings in trusted sinks

A place asks for a trusted type when the type checker says so: by the type that
the context expects of a value, or else by the declared type of what the value is
assigned to.  A value that is certain to be a plain string must not stand there.
-/
namespace Conformance.TrustedSink

def message (k : TrustedKind) : String :=
  "Assigning a plain string to a sink that requires " ++ k.typeName ++
    " is unsafe. Create the value through a Trusted Types policy instead."

/-- Does this value bring a plain string to a place that asks for the trusted type? -/
def isViolation (k : TrustedKind) (declared : Option TypeInfo) (value : Node) : Bool :=
  match value.contextualType.or declared, value.type with
  | some expected, some actual =>
    k.sink.appearsIn expected && actual.isStringLike && !k.sink.appearsIn actual
  | _, _ => false

def checkValue (k : TrustedKind) (isExempt : ProjectPath → Bool) (site : Site)
    (declared : Option TypeInfo) (value : Node) : List Report :=
  if !isViolation k declared value then []
  else if isExempt site.file.path then []
  else [.on value (message k) []]

/-- An assignment brings its right side to the type of its left side. -/
def checkAssignment (k : TrustedKind) (isExempt : ProjectPath → Bool) : Handler := fun site n =>
  if n.operator != some "=" then .ok []
  else match site.child n 0 "assignment target" with
    | .error d => .error d
    | .ok target => match site.child n 1 "assigned value" with
      | .error d => .error d
      | .ok value => .ok (checkValue k isExempt site target.type value)

/-- A call brings each argument to its parameter, whose type is the one the context expects. -/
def checkArguments (k : TrustedKind) (isExempt : ProjectPath → Bool) : Handler := fun site n =>
  match site.child n 0 "callee" with
  | .error d => .error d
  | .ok _ => .ok (n.arguments.flatMap (checkValue k isExempt site none))

/-- A declaration brings its initial value, if it has one, to the type of its name. -/
def checkInitializer (k : TrustedKind) (isExempt : ProjectPath → Bool) : Handler := fun site n =>
  match site.child n 0 "declared name" with
  | .error d => .error d
  | .ok name => match n.child? 1 with
    | none => .ok []
    | some value => .ok (checkValue k isExempt site name.type value)

def handlers (k : TrustedKind) (isExempt : ProjectPath → Bool) : List (NodeKind × Handler) := [
  (.binaryExpression, checkAssignment k isExempt),
  (.callExpression, checkArguments k isExempt),
  (.newExpression, checkArguments k isExempt),
  (.variableDeclaration, checkInitializer k isExempt)]

end Conformance.TrustedSink
