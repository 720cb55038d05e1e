import Conformance.Rule.DroppedPromise
import Conformance.Rule.NanComparison
import Conformance.Rule.StringSet
import Conformance.Rule.TrustedSink
/-!
# The catalog of rules

Every rule has a name, which is also the key of its exemptions, a code, a line of
description, and handlers.  A rule is given its exemptions, and each handler asks
for them at the last moment: when it has found something and is about to report
it.
-/
namespace Conformance

inductive Rule where
  | trustedSink (kind : TrustedKind)
  | equalsNan
  | stringSets
  | usePromises
  deriving DecidableEq, Repr

namespace Rule

/-- All rules, in the order in which they report. -/
def all : List Rule :=
  [.trustedSink .html, .trustedSink .script, .trustedSink .scriptUrl, .equalsNan, .stringSets,
    .usePromises]

def id : Rule → RuleId
  | .trustedSink .html => ⟨"ban-bare-string-to-trusted-html-sink", 21222⟩
  | .trustedSink .script => ⟨"ban-bare-string-to-trusted-script-sink", 21223⟩
  | .trustedSink .scriptUrl => ⟨"ban-bare-string-to-trusted-script-url-sink", 21224⟩
  | .equalsNan => ⟨"equals-nan", 21225⟩
  | .stringSets => ⟨"ban-string-initialized-sets", 21226⟩
  | .usePromises => ⟨"must-use-promises", 21227⟩

def name (r : Rule) : String := r.id.name

def description : Rule → String
  | .trustedSink k => "Plain strings must not reach sinks that require " ++ k.typeName ++ "."
  | .equalsNan => "Comparisons against NaN are constant; use isNaN()."
  | .stringSets => "new Set(string) builds a set of characters."
  | .usePromises => "Promises returned by calls must be awaited, used, or voided."

def find? (name : String) : Option Rule := all.find? (·.name == name)

def exemptHandlers (r : Rule) (isExempt : ProjectPath → Bool) : List (NodeKind × Handler) :=
  match r with
  | .trustedSink k => TrustedSink.handlers k isExempt
  | .equalsNan => NanComparison.handlers isExempt
  | .stringSets => StringSet.handlers isExempt
  | .usePromises => DroppedPromise.handlers isExempt

def padTo (width : Nat) (s : String) : String :=
  s ++ String.ofList (List.replicate (width - s.length) ' ')

/-- The list of all rules for reading: names, codes and descriptions in columns. -/
def listing : String :=
  let width := (all.map (·.name.length)).foldl max 0
  String.join (all.map fun r =>
    padTo width r.name ++ "  TS" ++ toString r.id.code.toNat ++ "  " ++ r.description ++ "\n")

end Rule

end Conformance
