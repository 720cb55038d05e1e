import Conformance.Glob.Match
import Conformance.Regex.Reader
/-!
# Globs as regular expressions

A glob that cannot be decided by comparing texts stands for a regular expression,
and is refused where that expression is nested too deep.  A glob that ends in an
extension stands for an expression of its own; all others of a list are numbered
and stand for expressions together.
-/
namespace Conformance

namespace GlobToken

def twoDigits (b : UInt8) : List Char :=
  [Nat.digitChar (b.toNat / 16), Nat.digitChar (b.toNat % 16)]

/-- A character that stands for itself in an expression. Outside ASCII its bytes do. -/
def literalText (c : Char) : List Char :=
  if c.toNat < 0x80 then if Regex.metaChars.contains c then ['\\', c] else [c]
  else (String.utf8EncodeChar c).flatMap fun b => '\\' :: 'x' :: twoDigits b

def rangeText (r : Char × Char) : List Char :=
  if r.1 = r.2 then literalText r.1 else literalText r.1 ++ '-' :: literalText r.2

def barred : List (List Char) → List Char
  | [] => []
  | [t] => t
  | t :: ts => t ++ '|' :: barred ts

mutual

def expression : GlobToken → List Char
  | .literal c => literalText c
  | .any => "[^/]".toList
  | .star => "[^/]*".toList
  | .leading => "(?:/?|.*/)".toList
  | .trailing => "/.*".toList
  | .between => "(?:/|/.*/)".toList
  | .cls negated ranges =>
    '[' :: (if negated then ['^'] else []) ++ ranges.flatMap rangeText ++ [']']
  | .oneOf branches =>
    match (branchTexts branches).filter fun t => !t.isEmpty with
    | [] => []
    | ts => "(?:".toList ++ barred ts ++ [')']

def branchTexts : List (List GlobToken) → List (List Char)
  | [] => []
  | b :: bs => rowText b :: branchTexts bs

def rowText : List GlobToken → List Char
  | [] => []
  | t :: ts => expression t ++ rowText ts

end

end GlobToken

namespace Glob

def expression (g : Glob) : List Char :=
  "(?-u)^".toList ++
    (match g.tokens with
      | [.leading] => ".*".toList
      | tokens => GlobToken.rowText tokens) ++ ['$']

/-! ## How a glob is decided -/

/-- How a glob is decided: by comparing texts, by its own expression, or by an expression among
those of others. -/
inductive Way where
  | texts
  | alone
  | together
  deriving DecidableEq, Repr

/-- Is this token a character of an extension, behind its dot? -/
def isExtensionChar : GlobToken → Bool
  | .literal c => c != '.' && c != '/'
  | _ => false

/-- Is this the rest of a glob that asks for an extension alone: a star, a dot and plain
characters? -/
def isExtension : List GlobToken → Bool
  | .star :: t :: ts => isDot t && ts.all isExtensionChar
  | _ => false

def endsInExtension (tokens : List GlobToken) : Bool :=
  (tokens.reverse.dropWhile isExtensionChar).head?.any isDot

/-- How a glob is decided. Texts are compared for a plain path, a plain path anywhere, everything
below a plain path, and an extension anywhere. The empty glob is no plain path. -/
def way (g : Glob) : Way :=
  let plain := match g.tokens with
    | [] => false
    | .leading :: t :: ts => (t :: ts).all isLiteral || isExtension (t :: ts)
    | tokens => tokens.all isLiteral || (match tokens.reverse with
      | .trailing :: ts => ts.all isLiteral
      | _ => false)
  if plain then .texts else if endsInExtension g.tokens then .alone else .together

def isTooDeep (g : Glob) : Bool :=
  match Regex.Form.parse g.expression with
  | .ok _ => false
  | .error _ => true

/-- Why a list of globs is refused, if it is: for the first one that stands alone, or for the first
one of the others. -/
def refusal? (gs : List Glob) : Option GlobError :=
  match gs.find? fun g => g.way == .alone && g.isTooDeep with
  | some g => some ⟨some (String.ofList g.expression), .expression 0⟩
  | none =>
    let joint := gs.filter fun g => g.way == .together
    match joint.findIdx? isTooDeep with
    | some i => some ⟨none, .expression i⟩
    | none => none

end Glob

end Conformance
