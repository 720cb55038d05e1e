import Conformance.Checker
import Conformance.Text.Split
/-!
# Sets made from a string

A set made from a string holds the string's characters, which is rarely what was
meant.  The fix wraps the string in an array.
-/
namespace Conformance.StringSet

def message : String :=
  "Value passed to the Set constructor is a string, so the Set will hold its characters rather " ++
    "than the string itself. Wrap the value in an array to store the whole string."

def report (site : Site) (argument : Node) : Report :=
  let wrapped := "[" ++ String.ofList (Text.trim (site.nodeText argument)) ++ "]"
  .on argument message [Fix.replace argument.pos argument.stop wrapped]

/-- Reports a set whose first argument is certain to be a string, unless the file is exempt. -/
def check (isExempt : ProjectPath → Bool) : Handler := fun site n =>
  match site.child n 0 "constructor" with
  | .error d => .error d
  | .ok callee =>
    if !callee.isIdentifier "Set" then .ok []
    else match n.arguments.head? with
      | none => .ok []
      | some argument =>
        if !argument.type.any (·.isStringLike) then .ok []
        else if isExempt site.file.path then .ok []
        else .ok [report site argument]

def handlers (isExempt : ProjectPath → Bool) : List (NodeKind × Handler) :=
  [(.newExpression, check isExempt)]

end Conformance.StringSet
