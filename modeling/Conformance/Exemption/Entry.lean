import Conformance.Glob.Expression
import Conformance.Path.Project
import Conformance.Regex.Match
import Conformance.Text.Order
/-!
# Exemptions

An exemption lets one rule pass over the files it names.  It names them by globs,
by directories and by regular expressions, and one of them is enough.  An entry
that names nothing exempts nothing: a directory name that is empty apart from
slashes is dropped, and would otherwise cover the whole project.
-/
namespace Conformance

structure ExemptionText where
  reason : Option String := none
  paths : List String := []
  prefixes : List String := []
  regexps : List String := []
  deriving DecidableEq, Repr, Inhabited

inductive ExemptionError where
  | glob (pattern : String) (error : GlobError)
  | regexp (pattern : String) (error : Regex.Refusal)
  deriving DecidableEq, Repr

def ExemptionError.message : ExemptionError → String
  | .glob pattern e => s!"invalid path glob '{pattern}': " ++ e.message
  | .regexp pattern e => s!"invalid regexp '{pattern}': " ++ e.message pattern.toList

/-- The files that a rule passes over. -/
structure ExemptionEntry where
  reason : Option String
  globs : List Glob
  directories : List (List Char)
  regexps : List Regex.Regexp
  deriving Repr, Inhabited

namespace ExemptionEntry

def readGlobs : List String → Except ExemptionError (List Glob)
  | [] => .ok []
  | p :: ps => match Glob.parse p with
    | .error e => .error (.glob p e)
    | .ok g => match readGlobs ps with
      | .error e => .error e
      | .ok gs => .ok (g :: gs)

def readRegexps : List String → Except ExemptionError (List Regex.Regexp)
  | [] => .ok []
  | p :: ps => match Regex.Regexp.parse p with
    | .error e => .error (.regexp p e)
    | .ok r => match readRegexps ps with
      | .error e => .error e
      | .ok rs => .ok (r :: rs)

def namedDirectories (names : List String) : List (List Char) :=
  (names.map String.toList).filter fun d => !(ProjectPath.dropSlashesEnd d).isEmpty

def ofText (t : ExemptionText) : Except ExemptionError ExemptionEntry :=
  match readGlobs t.paths with
  | .error e => .error e
  | .ok globs => match Glob.refusal? globs with
    | some e => .error (.glob (", ".intercalate t.paths) e)
    | none => match readRegexps t.regexps with
      | .error e => .error e
      | .ok regexps => .ok ⟨t.reason, globs, namedDirectories t.prefixes, regexps⟩

def isEmpty (e : ExemptionEntry) : Bool :=
  e.globs.isEmpty && e.directories.isEmpty && e.regexps.isEmpty

def covers (e : ExemptionEntry) (p : ProjectPath) : Bool :=
  Glob.anyMatch e.globs p.chars || e.directories.any p.isUnder ||
    e.regexps.any (·.isMatch p.chars)

end ExemptionEntry

/-! ## The exemptions of all rules -/

/-- Exemptions with the rule that each belongs to, in the order they were given. -/
structure ExemptionList where
  entries : List (String × ExemptionEntry) := []
  deriving Repr, Inhabited

namespace ExemptionList

def empty : ExemptionList := ⟨[]⟩

def insert (l : ExemptionList) (rule : String) (e : ExemptionEntry) : ExemptionList :=
  ⟨l.entries ++ [(rule, e)]⟩

def entriesFor (l : ExemptionList) (rule : String) : List ExemptionEntry :=
  (l.entries.filter (·.1 == rule)).map (·.2)

def first? (l : ExemptionList) (rule : String) : Option ExemptionEntry := (l.entriesFor rule).head?

def isExempt (l : ExemptionList) (rule : String) (p : ProjectPath) : Bool :=
  (l.entriesFor rule).any (·.covers p)

def ruleNames (l : ExemptionList) : List String := Text.sortedDistinct (l.entries.map (·.1))

theorem entriesFor_insert_self (l : ExemptionList) (rule : String) (e : ExemptionEntry) :
    (l.insert rule e).entriesFor rule = l.entriesFor rule ++ [e] := by
  simp [insert, entriesFor]

theorem entriesFor_insert_of_ne (l : ExemptionList) {rule other : String} (h : rule ≠ other)
    (e : ExemptionEntry) : (l.insert rule e).entriesFor other = l.entriesFor other := by
  simp [insert, entriesFor, h]

end ExemptionList

end Conformance
