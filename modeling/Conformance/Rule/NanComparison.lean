import Conformance.Checker
import Conformance.Text.Split
/-!
# Comparisons with NaN

No value equals NaN, so comparing with it has the same outcome whatever the other
side is.  The fix asks what was meant.
-/
namespace Conformance.NanComparison

/-- Is this operator a comparison for equality, and is it negated? -/
def negation? : String → Option Bool
  | "==" => some false
  | "===" => some false
  | "!=" => some true
  | "!==" => some true
  | _ => none

/-- The side that is compared with NaN. Where both sides are NaN it is the left one. -/
def otherSide? (left right : Node) : Option Node :=
  if right.isIdentifier "NaN" then some left
  else if left.isIdentifier "NaN" then some right
  else none

/-- The text of a side in a message; a side without text is called `x`. -/
def operandText (site : Site) (n : Node) : String :=
  match Text.trim (site.nodeText n) with
  | [] => "x"
  | cs => String.ofList cs

def report (site : Site) (n other : Node) (negated : Bool) : Report :=
  let test := "isNaN(" ++ operandText site other ++ ")"
  let replacement := if negated then "!" ++ test else test
  let outcome := if negated then "true" else "false"
  let message := String.ofList (Text.trim (site.nodeText n)) ++ " is always " ++ outcome ++
    "; use " ++ replacement ++ " instead."
  .on n message [Fix.replace n.pos n.stop replacement]

def check (isExempt : ProjectPath → Bool) : Handler := fun site n =>
  match n.operator.bind negation? with
  | none => .ok []
  | some negated => match site.child n 0 "left operand" with
    | .error d => .error d
    | .ok left => match site.child n 1 "right operand" with
      | .error d => .error d
      | .ok right => match otherSide? left right with
        | none => .ok []
        | some other =>
          if isExempt site.file.path then .ok [] else .ok [report site n other negated]

def handlers (isExempt : ProjectPath → Bool) : List (NodeKind × Handler) :=
  [(.binaryExpression, check isExempt)]

end Conformance.NanComparison
