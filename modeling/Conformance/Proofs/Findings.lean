import Conformance.Proofs.Defects
import Conformance.Proofs.Isolation
import Conformance.Proofs.Gathering
/-!
# What the rules find in a file

A walk calls registrations.  Read from the side of the rules it is plainer: node by node in
preorder, and at each node rule by rule, a rule reports what its handlers for the node's kind have
to say (`findingsIn`).  The registrations of some rules find just that (`gainsIn_registrationsOf`),
and where there is no defect no handler failed (`handler_ok`), so nothing is missing from it.
-/
namespace Conformance

/-- What a handler reports at a node; nothing if it fails. -/
def Handler.reports (h : Handler) (site : Site) (n : Node) : List Report :=
  match h site n with
  | .error _ => []
  | .ok reports => reports

namespace Rule

def finding (r : Rule) (file : SourceFile) (report : Report) : Finding :=
  ⟨r.id, file.path, .error, report⟩

/-- What a rule reports at a node: its handlers for the node's kind, one after the other. -/
def reportsAt (r : Rule) (isExempt : ProjectPath → Bool) (site : Site) (n : Node) : List Report :=
  ((r.exemptHandlers isExempt).filter (·.1 == n.kind)).flatMap fun h => h.2.reports site n

def findingsAt (r : Rule) (exemptions : ExemptionList) (program : Program) (file : SourceFile)
    (n : Node) : List Finding :=
  (r.reportsAt (exemptions.isExempt r.name) ⟨program, file, r.id⟩ n).map (r.finding file)

end Rule

/-- What some rules find in a file: node by node in preorder, and at each node rule by rule. -/
def findingsIn (rules : List Rule) (exemptions : ExemptionList) (program : Program)
    (file : SourceFile) : List Finding :=
  (Node.preorderOf file.statements).flatMap fun n =>
    rules.flatMap fun r => r.findingsAt exemptions program file n

theorem Rule.id_injective {r r' : Rule} (h : r.id = r'.id) : r = r' :=
  name_injective (congrArg RuleId.name h)

theorem Rule.rule_of_mem_findingsAt {r : Rule} {exemptions : ExemptionList} {program : Program}
    {file : SourceFile} {n : Node} {f : Finding}
    (h : f ∈ r.findingsAt exemptions program file n) : f.rule = r.id := by
  obtain ⟨report, -, rfl⟩ := List.mem_map.1 h
  rfl

theorem findingsIn_filter {rules : List Rule} (hrules : rules.Nodup) {r : Rule} (hr : r ∈ rules)
    (exemptions : ExemptionList) (program : Program) (file : SourceFile) :
    (findingsIn rules exemptions program file).filter (fun f => decide (f.rule = r.id)) =
      (Node.preorderOf file.statements).flatMap (r.findingsAt exemptions program file) := by
  rw [findingsIn, List.filter_flatMap]
  congr 1
  funext n
  exact filter_flatMap_tag Finding.rule (fun r' f hf => Rule.rule_of_mem_findingsAt hf)
    (hrules.map fun _ _ => Rule.id_injective) hr

theorem Checker.gain_call (program : Program) (file : SourceFile) (kind : NodeKind) (r : Rule)
    (h : Handler) (n : Node) :
    gain (call program file) (⟨kind, r.id, h⟩, n) =
      (h.reports ⟨program, file, r.id⟩ n).map (r.finding file) := by
  simp only [gain, call, Handler.reports]
  cases h ⟨program, file, r.id⟩ n <;> rfl

/-- **The registrations of some rules find what the rules find**, in the same order. -/
theorem Checker.gainsIn_registrationsOf (rules : List Rule) (exemptions : ExemptionList)
    (program : Program) {file : SourceFile} (hdecl : file.isDeclaration = false) :
    gainsIn program (registrationsOf rules exemptions) file =
      findingsIn rules exemptions program file := by
  have hnode : ∀ n : Node,
      (((registrationsOf rules exemptions).filter (fun r => r.kind == n.kind)).map
        fun r => (r, n)).flatMap (gain (call program file)) =
      rules.flatMap fun r => r.findingsAt exemptions program file n := by
    intro n
    unfold registrationsOf
    rw [List.flatMap_map, List.filter_flatMap, List.flatMap_assoc]
    congr 1
    funext r
    rw [List.filter_map, List.flatMap_map, Rule.findingsAt, Rule.reportsAt, List.map_flatMap]
    simp only [gain_call]
    rfl
  rw [gainsIn, if_neg (by simp [hdecl]), calls, List.flatMap_assoc, findingsIn]
  congr 1
  funext n
  exact hnode n

theorem Checker.handler_ok {rules : List Rule} {exemptions : ExemptionList} {program : Program}
    {file : SourceFile}
    (h : defectsIn program (registrationsOf rules exemptions) file = [])
    (hdecl : file.isDeclaration = false) {n : Node} (hn : n ∈ Node.preorderOf file.statements)
    {r : Rule} (hr : r ∈ rules) {handler : NodeKind × Handler}
    (hhandler : handler ∈ r.exemptHandlers (exemptions.isExempt r.name))
    (hkind : handler.1 = n.kind) :
    ∃ reports, handler.2 ⟨program, file, r.id⟩ n = .ok reports := by
  have hcall : ((⟨handler.1, r.id, handler.2⟩ : Registration), n) ∈
      calls (registrationsOf rules exemptions) file.statements := by
    refine List.mem_flatMap.2 ⟨n, hn, List.mem_map.2 ⟨_, List.mem_filter.2 ⟨?_, ?_⟩, rfl⟩⟩
    · exact List.mem_flatMap.2 ⟨r, hr, List.mem_map.2 ⟨handler, hhandler, rfl⟩⟩
    · simp [hkind]
  rw [defectsIn, if_neg (by simp [hdecl]), List.filterMap_eq_nil_iff] at h
  have hnone := h _ hcall
  simp only [fault?, call] at hnone
  cases hreports : handler.2 ⟨program, file, r.id⟩ n with
  | ok reports => exact ⟨reports, rfl⟩
  | error d =>
    rw [hreports] at hnone
    cases hnone

/-- **The walk of a file comes to its end when no node lacks a part.** -/
theorem Checker.exists_findings {rules : List Rule} {exemptions : ExemptionList} {program : Program}
    {file : SourceFile} (hdecl : file.isDeclaration = false) :
    (∃ found, (checkerOf program rules exemptions).findings file = .ok found) ↔
      ∀ n ∈ Node.preorderOf file.statements, ∀ r ∈ rules, r.isLacking n = false := by
  have hdefects : (∃ found, (checkerOf program rules exemptions).findings file = .ok found) ↔
      defectsIn program (registrationsOf rules exemptions) file = [] := by
    rw [checkerOf, findings_eq]
    simp only [orFirst_eq_ok, Except.ok.injEq, exists_and_left, exists_eq', and_true]
  rw [hdefects, defectsIn_registrationsOf, if_neg (by simp [hdecl])]
  simp only [List.flatMap_eq_nil_iff, List.filterMap_eq_nil_iff, ← Rule.isSome_defect? file,
    Option.isSome_eq_false_iff, Option.isNone_iff_eq_none]

/-- **The walk of a file has all that the rules find there, sorted.** -/
theorem Checker.findings_checkerOf {rules : List Rule} {exemptions : ExemptionList}
    {program : Program} {file : SourceFile} {found : List Finding}
    (hdecl : file.isDeclaration = false)
    (h : (checkerOf program rules exemptions).findings file = .ok found) :
    IsStableSort findingLe found (findingsIn rules exemptions program file) := by
  rw [checkerOf, findings_eq, orFirst_eq_ok, Except.ok.injEq] at h
  rw [← h.2, gainsIn_registrationsOf rules exemptions program hdecl]
  exact isStableSort_findings _

end Conformance
