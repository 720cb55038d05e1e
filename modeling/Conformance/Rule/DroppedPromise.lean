import Conformance.Checker
/-!
# Promises that nobody uses

A call whose promise is dropped hides its failures.  A statement that is only a
call drops what the call returns; an awaited or voided call is a node of another
kind.
-/
namespace Conformance.DroppedPromise

/-- The last name of a path, whichever way it leans its slashes. -/
def lastName (cs : List Char) : List Char :=
  (cs.reverse.takeWhile fun c => c != '/' && c != '\\').reverse

def isStandardLibrary (file : String) : Bool :=
  let name := lastName file.toList
  "lib.".toList.isPrefixOf name && ".d.ts".toList.isSuffixOf name

/-- Is this constituent the promise of the standard library? Without declarations the displayed
name decides. -/
def isPromise (t : TypeInfo) : Bool :=
  if t.declarations.isEmpty then
    t.name == "Promise" || "Promise<".toList.isPrefixOf t.name.toList
  else t.declarations.any fun d => d.qualifiedName == "Promise" && isStandardLibrary d.file

/-- May a value of this type be a promise? -/
def isPromiseLike (t : TypeInfo) : Bool := t.constituents.any isPromise

def message : String :=
  "All Promises in async functions must either be awaited or used in an expression. Prefix the " ++
    "call with `void` to discard the result deliberately."

/-- Reports a statement that is only a call and drops a promise, unless the file is exempt. -/
def check (isExempt : ProjectPath → Bool) : Handler := fun site n =>
  match site.child n 0 "expression" with
  | .error d => .error d
  | .ok expression =>
    if expression.kind != .callExpression then .ok []
    else if !expression.type.any isPromiseLike then .ok []
    else if isExempt site.file.path then .ok []
    else .ok [.on expression message []]

def handlers (isExempt : ProjectPath → Bool) : List (NodeKind × Handler) :=
  [(.expressionStatement, check isExempt)]

end Conformance.DroppedPromise
