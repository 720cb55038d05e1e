import Conformance.Tree.TypeInfo
/-!
# Nodes of a checked program

The syntax tree of a file, with the type checker's findings on its nodes.  Only
the kinds that rules ask for have names; every other node is of the kind `other`.
A tree is walked in preorder: a node before its children, children from left to
right.
-/
namespace Conformance

inductive NodeKind where
  | expressionStatement
  | variableStatement
  | variableDeclaration
  | binaryExpression
  | callExpression
  | newExpression
  | propertyAccessExpression
  | elementAccessExpression
  | identifier
  | stringLiteral
  | noSubstitutionTemplateLiteral
  | templateExpression
  | numericLiteral
  | awaitExpression
  | voidExpression
  | arrowFunction
  | functionDeclaration
  | classDeclaration
  | interfaceDeclaration
  | typeAliasDeclaration
  | moduleDeclaration
  | block
  | returnStatement
  | ifStatement
  | other
  deriving DecidableEq, Repr, Inhabited

def NodeKind.name : NodeKind → String
  | .expressionStatement => "ExpressionStatement"
  | .variableStatement => "VariableStatement"
  | .variableDeclaration => "VariableDeclaration"
  | .binaryExpression => "BinaryExpression"
  | .callExpression => "CallExpression"
  | .newExpression => "NewExpression"
  | .propertyAccessExpression => "PropertyAccessExpression"
  | .elementAccessExpression => "ElementAccessExpression"
  | .identifier => "Identifier"
  | .stringLiteral => "StringLiteral"
  | .noSubstitutionTemplateLiteral => "NoSubstitutionTemplateLiteral"
  | .templateExpression => "TemplateExpression"
  | .numericLiteral => "NumericLiteral"
  | .awaitExpression => "AwaitExpression"
  | .voidExpression => "VoidExpression"
  | .arrowFunction => "ArrowFunction"
  | .functionDeclaration => "FunctionDeclaration"
  | .classDeclaration => "ClassDeclaration"
  | .interfaceDeclaration => "InterfaceDeclaration"
  | .typeAliasDeclaration => "TypeAliasDeclaration"
  | .moduleDeclaration => "ModuleDeclaration"
  | .block => "Block"
  | .returnStatement => "ReturnStatement"
  | .ifStatement => "IfStatement"
  | .other => "Other"

def NodeKind.all : List NodeKind :=
  [.expressionStatement, .variableStatement, .variableDeclaration, .binaryExpression,
    .callExpression, .newExpression, .propertyAccessExpression, .elementAccessExpression,
    .identifier, .stringLiteral, .noSubstitutionTemplateLiteral, .templateExpression,
    .numericLiteral, .awaitExpression, .voidExpression, .arrowFunction, .functionDeclaration,
    .classDeclaration, .interfaceDeclaration, .typeAliasDeclaration, .moduleDeclaration, .block,
    .returnStatement, .ifStatement, .other]

/-- The kind with a name; an unknown name is that of another node. -/
def NodeKind.ofName (s : String) : NodeKind := (NodeKind.all.find? (·.name == s)).getD .other

/-- A node of a syntax tree. It covers the bytes of the text from `pos` up to `stop`. -/
structure Node where
  kind : NodeKind
  pos : UInt32
  stop : UInt32
  /-- The name of an identifier, or the value of a literal. -/
  text : Option String
  /-- The operator of a binary expression. -/
  operator : Option String
  /-- The type that the node has. -/
  type : Option TypeInfo
  /-- The type that the place of the node asks for. -/
  contextualType : Option TypeInfo
  children : List Node
  deriving Repr, Inhabited

namespace Node

def child? (n : Node) (i : Nat) : Option Node := n.children[i]?

/-- The arguments of a call: all children behind the callee. -/
def arguments (n : Node) : List Node := n.children.drop 1

def isIdentifier (n : Node) (name : String) : Bool :=
  n.kind == .identifier && n.text == some name

/-- The bytes that a node covers; none when it stops before it starts. -/
def width (n : Node) : UInt32 := if n.pos ≤ n.stop then n.stop - n.pos else 0

mutual

/-- A node and all nodes below it, each before its children. -/
def preorder : Node → List Node
  | ⟨kind, pos, stop, text, operator, type, contextualType, children⟩ =>
    ⟨kind, pos, stop, text, operator, type, contextualType, children⟩ :: preorderOf children

def preorderOf : List Node → List Node
  | [] => []
  | n :: ns => preorder n ++ preorderOf ns

end

theorem preorder_eq (n : Node) : n.preorder = n :: preorderOf n.children := by
  cases n
  rw [preorder]

@[simp] theorem preorderOf_nil : preorderOf [] = [] := by rw [preorderOf]

@[simp] theorem preorderOf_cons (n : Node) (ns : List Node) :
    preorderOf (n :: ns) = n :: (preorderOf n.children ++ preorderOf ns) := by
  rw [preorderOf, preorder_eq, List.cons_append]

theorem preorderOf_append : ∀ (ns ms : List Node),
    preorderOf (ns ++ ms) = preorderOf ns ++ preorderOf ms
  | [], _ => by simp
  | n :: ns, ms => by simp [preorderOf_append ns ms]

end Node

end Conformance
