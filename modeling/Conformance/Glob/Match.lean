import Conformance.Glob.Token
/-!
# Matching globs

A glob is matched against the bytes of a whole path.  Each token takes a set of
places in the path to the set of places that it can reach, a place being what is
left of the path; a glob matches when its tokens together can reach the end.  The
work is bounded by the number of tokens and places, whatever the stars.

Wildcards and classes take a byte.  A character outside ASCII takes several, so a
class with such a character is a class of its bytes.
-/
namespace Conformance

namespace GlobToken

def slash : UInt8 := 0x2F

/-! ## Classes of bytes -/

/-- The ranges of bytes that a range of characters stands for: the bytes of its ends, with the
range between them where the last byte of the one meets the first of the other. -/
def byteRanges (r : Char × Char) : List (UInt8 × UInt8) :=
  let lo := String.utf8EncodeChar r.1
  let hi := String.utf8EncodeChar r.2
  if r.1 = r.2 then lo.map fun b => (b, b)
  else
    lo.dropLast.map (fun b => (b, b)) ++ [(lo.getLastD 0, hi.headD 0)] ++
      (hi.drop 1).map fun b => (b, b)

def classHas (ranges : List (Char × Char)) (b : UInt8) : Bool :=
  (ranges.flatMap byteRanges).any fun r => r.1 ≤ b && b ≤ r.2

/-! ## Places -/

def placesFrom : List UInt8 → List (List UInt8)
  | [] => [[]]
  | b :: bs => (b :: bs) :: placesFrom bs

/-- The places that a run without slashes can reach. -/
def placesInName : List UInt8 → List (List UInt8)
  | [] => [[]]
  | b :: bs => (b :: bs) :: if b = slash then [] else placesInName bs

/-- The places behind each slash. -/
def placesAfterSlash : List UInt8 → List (List UInt8)
  | [] => []
  | b :: bs => if b = slash then bs :: placesAfterSlash bs else placesAfterSlash bs

/-- Drops places that are there twice. Places of one path are told apart by their length. -/
def distinct : List (List UInt8) → List (List UInt8)
  | [] => []
  | p :: ps => if (distinct ps).any (·.length == p.length) then distinct ps else p :: distinct ps

mutual

/-- Does a token write nothing? Only a group whose branches all write nothing does. -/
def isVoid : GlobToken → Bool
  | .oneOf branches => areVoid branches
  | _ => false

def areVoid : List (List GlobToken) → Bool
  | [] => true
  | b :: bs => isVoidBranch b && areVoid bs

def isVoidBranch : List GlobToken → Bool
  | [] => true
  | t :: ts => isVoid t && isVoidBranch ts

end

mutual

/-- The places that a token can reach from a place. Void branches of a group are left out; a group
with no other branch takes nothing. -/
def reach : GlobToken → List UInt8 → List (List UInt8)
  | .literal c, p =>
    let bytes := String.utf8EncodeChar c
    if bytes.isPrefixOf p then [p.drop bytes.length] else []
  | .any, p => match p with
    | [] => []
    | b :: bs => if b = slash then [] else [bs]
  | .star, p => placesInName p
  | .leading, p => p :: placesAfterSlash p
  | .trailing, p => match p with
    | [] => []
    | b :: bs => if b = slash then placesFrom bs else []
  | .between, p => match p with
    | [] => []
    | b :: bs => if b = slash then bs :: placesAfterSlash bs else []
  | .cls negated ranges, p => match p with
    | [] => []
    | b :: bs => if classHas ranges b != negated then [bs] else []
  | .oneOf branches, p => if areVoid branches then [p] else reachAny branches p

def reachAny : List (List GlobToken) → List UInt8 → List (List UInt8)
  | [], _ => []
  | b :: bs, p => (if isVoidBranch b then [] else reachAll b [p]) ++ reachAny bs p

def reachAll : List GlobToken → List (List UInt8) → List (List UInt8)
  | [], ps => ps
  | t :: ts, ps => reachAll ts (distinct (ps.flatMap (reach t)))

end

end GlobToken

structure Glob where
  tokens : List GlobToken
  deriving Repr, Inhabited

namespace Glob

def parse (pattern : String) : Except GlobError Glob :=
  match GlobToken.parse pattern.toList with
  | .ok tokens => .ok ⟨tokens⟩
  | .error fault => .error ⟨some pattern, fault⟩

def isLiteral : GlobToken → Bool
  | .literal _ => true
  | _ => false

def isSlash : GlobToken → Bool
  | .literal c => c == '/'
  | _ => false

def isDot : GlobToken → Bool
  | .literal c => c == '.'
  | _ => false

/-- A glob that ends in a dot is decided by the last name of a path, unless it is a plain path,
or a plain path of several names anywhere. -/
def asksLastName (g : Glob) : Bool :=
  g.tokens.getLast?.any isDot && !g.tokens.all isLiteral &&
    match g.tokens with
    | .leading :: rest => !(rest.all isLiteral && rest.any isSlash)
    | _ => true

/-- Has a path a last name? Not if it ends by going up. -/
def hasLastName (path : List Char) : Bool :=
  (path.reverse.takeWhile (· ≠ '/')) != ['.', '.']

/-- Does a glob match a path? A lone double star matches everything. A glob that asks for the last
name of a path does not match a path that has none. -/
def isMatch (g : Glob) (path : List Char) : Bool :=
  match g.tokens with
  | [.leading] => true
  | tokens =>
    (!g.asksLastName || hasLastName path) &&
      (GlobToken.reachAll tokens [path.flatMap String.utf8EncodeChar]).any (·.isEmpty)

def anyMatch (gs : List Glob) (path : List Char) : Bool := gs.any (·.isMatch path)

end Glob

end Conformance
