import Conformance.Project.Load
/-!
# The projects of a solution

A project may need others, and those others again.  A solution is a project with
all that it needs, put in an order in which every project comes after those it
needs.  References that run in a circle have no such order.

A project is known by its key: the path of its project file, with dots resolved,
so that a project which is reached by two routes is taken once.  The search goes
depth first, with the keys it is inside of at hand to notice a circle.
-/
namespace Conformance

inductive SolutionError where
  | config (error : ConfigError)
  /-- A project is needed by itself, by way of those in the chain. -/
  | circle (chain : List Path) (again : Path)
  /-- A project that `key` needs has the fault. -/
  | neededBy (key : Path) (error : SolutionError)
  deriving DecidableEq, Repr

def SolutionError.message : SolutionError → String
  | .config e => e.message
  | .circle chain again =>
    "Project references may not form a circular graph. Cycle detected: " ++
      " -> ".intercalate ((chain ++ [again]).map (·.text))
  | .neededBy key e => "referenced from " ++ key.text ++ ": " ++ e.message

namespace Solution

def keyOf (d : Disk) (p : Path) : Path := (Project.locate d p).normalize

def isListed (key : Path) (projects : List Project) : Bool :=
  projects.any (·.configPath == some key)

def visitAll (visit : List Project → Path → Except SolutionError (List Project)) :
    List Project → List Path → Except SolutionError (List Project)
  | done, [] => .ok done
  | done, key :: keys => match visit done key with
    | .error e => .error e
    | .ok done => visitAll visit done keys

/-- Adds the project of a key to those that are done, behind all that it needs. `chain` holds the
keys that the search is inside of, and is at most so long. -/
def visit (d : Disk) : Nat → List Path → List Project → Path → Except SolutionError (List Project)
  | 0, chain, _, key => .error (.circle chain key)
  | depth + 1, chain, done, key =>
    if isListed key done then .ok done
    else if key ∈ chain then .error (.circle chain key)
    else match Project.load d key with
      | .error e => .error (.config e)
      | .ok p =>
        match visitAll (visit d depth (chain ++ [key])) done (p.references.map (keyOf d)) with
        | .error e => .error (.neededBy key e)
        | .ok done => .ok (done ++ [p])

/-- How deep a search can get. A chain holds no key twice, and each of its keys leads to a file;
keys that lead to one file differ only in how many steps they go up first, which the length of
paths bounds. -/
def depthLimit (d : Disk) : Nat := (d.entries.length + 1) * Disk.pathLimit

/-- The projects of a solution, in the order in which they are built. -/
def projects (d : Disk) (root : Path) : Except SolutionError (List Project) :=
  visit d (depthLimit d) [] [] root

end Solution

end Conformance
