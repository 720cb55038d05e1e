import Conformance.Fix
/-!
# One walk for all rules

Rules do not walk trees.  Each attaches handlers to kinds of nodes, and the
checker walks a file once and calls, at every node, the handlers for its kind in
the order in which they were attached.

A handler reports what it found at one node, under the rule that attached it, and
sees nothing of the others.  A node without the parts that its kind promises is a
defect of the tree, not a finding: it ends the walk.

Attaching is possible until the first walk begins.
-/
namespace Conformance

/-- The identity of a rule: the key of its exemptions and the code it reports under. -/
structure RuleId where
  name : String
  code : UInt32
  deriving DecidableEq, Repr, Inhabited

/-- A node lacks a part that its kind promises. -/
structure Defect where
  rule : String
  file : String
  kind : NodeKind
  pos : UInt32
  /-- What is missing. -/
  expected : String
  deriving DecidableEq, Repr

def Defect.message (d : Defect) : String :=
  "rule " ++ d.rule ++ ": " ++ d.kind.name ++ " at " ++ d.file ++ ":" ++ toString d.pos.toNat ++
    " is missing its " ++ d.expected

structure Report where
  start : UInt32
  stop : UInt32
  message : String
  fixes : List Fix
  deriving DecidableEq, Repr

def Report.on (n : Node) (message : String) (fixes : List Fix) : Report :=
  ⟨n.pos, n.stop, message, fixes⟩

structure Finding where
  rule : RuleId
  file : ProjectPath
  severity : Severity
  report : Report
  deriving DecidableEq, Repr

/-- What a handler sees besides the node. -/
structure Site where
  program : Program
  file : SourceFile
  rule : RuleId

namespace Site

def nodeText (s : Site) (n : Node) : List Char := s.file.slice n.pos n.stop

def defect (s : Site) (n : Node) (expected : String) : Defect :=
  ⟨s.rule.name, s.file.fileName, n.kind, n.pos, expected⟩

/-- The child at an index, which the node's kind promises. -/
def child (s : Site) (n : Node) (i : Nat) (expected : String) : Except Defect Node :=
  match n.child? i with
  | some c => .ok c
  | none => .error (s.defect n expected)

end Site

abbrev Handler := Site → Node → Except Defect (List Report)

structure Registration where
  kind : NodeKind
  rule : RuleId
  handler : Handler

/-- Registrations over a program, open until the first walk. -/
structure Checker where
  program : Program
  registrations : List Registration
  /-- For each kind of nodes, where its registrations stand in the list of all. -/
  byKind : NodeKind → List Nat
  isSealed : Bool

structure RegistrationClosed where
  rule : String
  deriving DecidableEq, Repr

def RegistrationClosed.message (e : RegistrationClosed) : String :=
  "rule " ++ e.rule ++ " tried to register a handler after execution started"

namespace Checker

def new (program : Program) : Checker := ⟨program, [], fun _ => [], false⟩

def attach (c : Checker) (r : Registration) : Checker :=
  { c with
    registrations := c.registrations ++ [r]
    byKind := fun kind =>
      if kind = r.kind then c.byKind kind ++ [c.registrations.length] else c.byKind kind }

/-- A checker with some registrations, in the order they are made. -/
def ofRegistrations (program : Program) (rs : List Registration) : Checker :=
  rs.foldl attach (new program)

def on (c : Checker) (kind : NodeKind) (rule : RuleId) (handler : Handler) :
    Except RegistrationClosed Checker :=
  if c.isSealed then .error ⟨rule.name⟩ else .ok (c.attach ⟨kind, rule, handler⟩)

/-- Attaches several handlers of a rule, all or none. -/
def onAll (c : Checker) (rule : RuleId) (handlers : List (NodeKind × Handler)) :
    Except RegistrationClosed Checker :=
  handlers.foldlM (fun c h => c.on h.1 rule h.2) c

def handlerCount (c : Checker) : Nat := c.registrations.length

/-- The registrations for a kind of nodes, by the index. -/
def attachedTo (c : Checker) (kind : NodeKind) : List Registration :=
  (c.byKind kind).filterMap fun i => c.registrations[i]?

/-! ## The walk

The nodes that are still to be visited wait on a stack.  The node on top is taken,
its handlers are called, and its children are pushed, the last one first, so that
the first one is next.

What a call does is left open here: `walk` only says which registrations are called
at which nodes and gathers what the calls come to. -/

/-- Pushes nodes on a stack one after the other; the last of them ends on top. -/
def push (stack nodes : List Node) : List Node := nodes.foldl (fun stack n => n :: stack) stack

@[simp] theorem push_reverse (stack nodes : List Node) :
    push stack nodes.reverse = nodes ++ stack := by
  simp [push, List.foldl_reverse]

/-- Visits the nodes on a stack and all below them, the top of the stack first. -/
def drain {m : Type → Type} [Monad m] (visit : List Finding → Node → m (List Finding))
    (found : List Finding) : List Node → m (List Finding)
  | [] => pure found
  | n :: stack => do
    let found ← visit found n
    drain visit found (push stack n.children.reverse)
termination_by stack => (Node.preorderOf stack).length
decreasing_by simp [Node.preorderOf_append]

def visit {m : Type → Type} [Monad m] (c : Checker)
    (call : Registration → Node → m (List Finding)) (found : List Finding) (n : Node) :
    m (List Finding) :=
  (c.attachedTo n.kind).foldlM (fun found r => do return found ++ (← call r n)) found

/-- Findings are ordered by where they start, then by where they stop. -/
def findingLe (a b : Finding) : Bool :=
  decide (a.report.start < b.report.start) ||
    (a.report.start == b.report.start && decide (a.report.stop ≤ b.report.stop))

/-- Walks a file and puts the findings in the order of the text; findings at the same place
stay in the order of the walk. A declaration file is not walked. -/
def walk {m : Type → Type} [Monad m] (c : Checker)
    (call : Registration → Node → m (List Finding)) (file : SourceFile) : m (List Finding) :=
  if file.isDeclaration then pure []
  else do
    let found ← drain (c.visit call) [] (push [] file.statements.reverse)
    return found.mergeSort findingLe

def call (program : Program) (file : SourceFile) (r : Registration) (n : Node) :
    Except Defect (List Finding) :=
  (r.handler ⟨program, file, r.rule⟩ n).map fun reports =>
    reports.map fun report => ⟨r.rule, file.path, .error, report⟩

def findings (c : Checker) (file : SourceFile) : Except Defect (List Finding) :=
  c.walk (call c.program file) file

/-- Walks a file, which closes the registration. -/
def execute (c : Checker) (file : SourceFile) : Except Defect (List Finding) × Checker :=
  (c.findings file, { c with isSealed := true })

end Checker

end Conformance
