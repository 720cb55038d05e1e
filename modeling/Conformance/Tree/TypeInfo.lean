/-!
# Types of a checked program

What the type checker said about a type: its name as displayed, its kind, where
it is declared, and the members of a union.  Unions nest, and the rules look
through them: `constituents` is the flat list of what a type may be, and a type is
string-like when it is certain to be a string, whichever member it turns out to
be.
-/
namespace Conformance

/-- The kinds of types that rules tell apart. Every other kind is an object. -/
inductive TypeKind where
  | string
  | stringLiteral
  | templateLiteral
  | number
  | boolean
  | union
  | any
  | unknown
  | object
  deriving DecidableEq, Repr, Inhabited

def TypeKind.name : TypeKind → String
  | .string => "string"
  | .stringLiteral => "stringLiteral"
  | .templateLiteral => "templateLiteral"
  | .number => "number"
  | .boolean => "boolean"
  | .union => "union"
  | .any => "any"
  | .unknown => "unknown"
  | .object => "object"

def TypeKind.all : List TypeKind :=
  [.string, .stringLiteral, .templateLiteral, .number, .boolean, .union, .any, .unknown, .object]

/-- The kind with a name; an unknown name is an object's. -/
def TypeKind.ofName (s : String) : TypeKind := (TypeKind.all.find? (·.name == s)).getD .object

structure TypeDeclaration where
  /-- The declaring file, as an absolute path. -/
  file : String
  /-- The name with the modules around it. -/
  qualifiedName : String
  deriving DecidableEq, Repr, Inhabited

structure TypeInfo where
  /-- The name as displayed. -/
  name : String
  kind : TypeKind
  declarations : List TypeDeclaration
  /-- What a union may be. -/
  members : List TypeInfo
  deriving Repr, Inhabited

namespace TypeInfo

/-- A kind whose values are strings. -/
def isStringKind : TypeKind → Bool
  | .string => true
  | .stringLiteral => true
  | .templateLiteral => true
  | _ => false

mutual

/-- Is a value of this type certain to be a string? A union without members is not. -/
def isStringLike : TypeInfo → Bool
  | ⟨_, kind, _, members⟩ =>
    isStringKind kind || (kind == .union && !members.isEmpty && allStringLike members)

def allStringLike : List TypeInfo → Bool
  | [] => true
  | t :: ts => isStringLike t && allStringLike ts

end

mutual

/-- What a type may be, unions taken apart at every depth. -/
def constituents : TypeInfo → List TypeInfo
  | ⟨name, kind, declarations, members⟩ =>
    if kind = .union then constituentsOf members else [⟨name, kind, declarations, members⟩]

def constituentsOf : List TypeInfo → List TypeInfo
  | [] => []
  | t :: ts => constituents t ++ constituentsOf ts

end

end TypeInfo

end Conformance
