import Conformance.Proofs.Exempting
import Conformance.Proofs.Pass
/-!
# Rules by themselves

All rules share one walk, one list of findings and one sort.  None of it lets a rule be felt by the
others: the calls of some of the rules are those of all rules without the calls of the others, a
call finds under its own rule only, and elements may be left out before or after a stable sort.  So
a pass of fewer rules has what the pass of all rules has from them, in the same order.
-/
namespace Conformance

def Rule.isNamed (rules : List Rule) (name : String) : Bool := rules.any (·.name == name)

/-- Does a diagnostic come from one of these rules, or from no rule at all? -/
def Diagnostic.isFrom (rules : List Rule) (d : Diagnostic) : Bool := d.rule.all (Rule.isNamed rules)

theorem Rule.mem_all (r : Rule) : r ∈ all := by
  cases r with
  | trustedSink k => cases k <;> decide
  | equalsNan => decide
  | stringSets => decide
  | usePromises => decide

theorem Rule.name_injective {r r' : Rule} (h : r.name = r'.name) : r = r' := by
  have hall : ∀ a ∈ all, ∀ b ∈ all, a.name = b.name → a = b := by decide
  exact hall r r.mem_all r' r'.mem_all h

theorem Rule.isNamed_name {rules : List Rule} {r : Rule} :
    isNamed rules r.name = decide (r ∈ rules) := by
  rw [Bool.eq_iff_iff, isNamed, List.any_eq_true, decide_eq_true_iff]
  constructor
  · rintro ⟨r', hr', hname⟩
    have hsame : r' = r := name_injective (by simpa using hname)
    exact hsame ▸ hr'
  · exact fun hr => ⟨r, hr, by simp⟩

/-! ## Registrations -/

theorem eq_filter_of_sublist {kept rules : List Rule} (h : kept.Sublist rules)
    (hrules : rules.Nodup) : kept = rules.filter fun r => decide (r ∈ kept) := by
  induction h with
  | slnil => rfl
  | @cons kept rules a h ih =>
    have ha : a ∉ kept := fun hmem => (List.nodup_cons.1 hrules).1 (h.subset hmem)
    rw [List.filter_cons_of_neg (by simpa using ha)]
    exact ih hrules.of_cons
  | @cons_cons kept rules a h ih =>
    have hsame : (rules.filter fun r => decide (r ∈ a :: kept)) =
        rules.filter fun r => decide (r ∈ kept) := by
      refine List.filter_congr fun r hr => ?_
      have hne : r ≠ a := fun hra => (List.nodup_cons.1 hrules).1 (hra ▸ hr)
      simp [hne]
    rw [List.filter_cons_of_pos (by simp), hsame, ← ih hrules.of_cons]

theorem registrationsOf_filter (kept rules : List Rule) (exemptions : ExemptionList) :
    registrationsOf (rules.filter fun r => decide (r ∈ kept)) exemptions =
      (registrationsOf rules exemptions).filter fun r => Rule.isNamed kept r.rule.name := by
  unfold registrationsOf
  induction rules with
  | nil => rfl
  | cons rule rules ih =>
    -- the registrations of a rule are kept or go together
    have hown : ∀ r ∈ (rule.exemptHandlers (exemptions.isExempt rule.name)).map
        (fun h => (⟨h.1, rule.id, h.2⟩ : Registration)),
        Rule.isNamed kept r.rule.name = decide (rule ∈ kept) := by
      intro r hr
      obtain ⟨h, -, rfl⟩ := List.mem_map.1 hr
      exact Rule.isNamed_name
    rw [List.flatMap_cons, List.filter_append, ← ih, List.filter_congr hown, List.filter_cons]
    by_cases hkept : rule ∈ kept <;> simp [hkept]

/-! ## Calls and findings -/

namespace Checker

theorem calls_filter (q : Registration → Bool) (rs : List Registration) (ns : List Node) :
    calls (rs.filter q) ns = (calls rs ns).filter fun x => q x.1 := by
  unfold calls
  rw [List.filter_flatMap]
  congr 1
  funext n
  rw [List.filter_map, List.filter_filter, List.filter_filter]
  congr 1
  exact List.filter_congr fun r _ => Bool.and_comm _ _

theorem rule_of_mem_gain {program : Program} {file : SourceFile} {x : Registration × Node}
    {f : Finding} (h : f ∈ gain (call program file) x) : f.rule = x.1.rule := by
  unfold gain at h
  split at h
  · cases h
  · rename_i found hfound
    exact (isOf_of_call hfound f h).2

/-- A call finds under its own rule only, so calls are left out with what they find. -/
theorem flatMap_gain_filter (program : Program) (file : SourceFile) (q : RuleId → Bool) :
    ∀ xs : List (Registration × Node),
      (xs.filter fun x => q x.1.rule).flatMap (gain (call program file)) =
        (xs.flatMap (gain (call program file))).filter fun f => q f.rule
  | [] => rfl
  | x :: xs => by
    have hown : (gain (call program file) x).filter (fun f => q f.rule) =
        (gain (call program file) x).filter fun _ => q x.1.rule :=
      List.filter_congr fun f hf => by rw [rule_of_mem_gain hf]
    rw [List.flatMap_cons, List.filter_append, ← flatMap_gain_filter program file q xs, hown,
      List.filter_cons]
    cases q x.1.rule <;> simp

theorem gainsIn_filter (program : Program) (q : RuleId → Bool) (rs : List Registration)
    (file : SourceFile) : gainsIn program (rs.filter fun r => q r.rule) file =
      (gainsIn program rs file).filter fun f => q f.rule := by
  unfold gainsIn
  split
  · rfl
  · rw [calls_filter, flatMap_gain_filter]

theorem defectsIn_filter (program : Program) (q : Registration → Bool) (rs : List Registration)
    (file : SourceFile) : (defectsIn program (rs.filter q) file).Sublist
      (defectsIn program rs file) := by
  unfold defectsIn
  split
  · exact List.Sublist.refl _
  · rw [calls_filter]
    exact List.filter_sublist.filterMap _

end Checker

/-! ## Passes -/

theorem passFound_sublist {kept rules : List Rule} (h : kept.Sublist rules) (hrules : rules.Nodup)
    {program : Program} {exemptions : ExemptionList} {found : List Diagnostic}
    (hfound : passFound program rules exemptions = .ok found) :
    passFound program kept exemptions = .ok (found.filter (Diagnostic.isFrom kept)) := by
  refine passFound_filter (fun file ds hds =>
    foundIn_filter (p := fun f => Rule.isNamed kept f.rule.name) ?_ (fun _ _ _ => rfl) hds) hfound
  rw [eq_filter_of_sublist h hrules, registrationsOf_filter, ← eq_filter_of_sublist h hrules]
  exact Checker.gainsIn_filter program (fun id => Rule.isNamed kept id.name) _ file

theorem passDefects_sublist {kept rules : List Rule} (h : kept.Sublist rules) (hrules : rules.Nodup)
    {program : Program} {exemptions : ExemptionList}
    (hnone : passDefects program rules exemptions = []) :
    passDefects program kept exemptions = [] := by
  unfold passDefects at hnone ⊢
  rw [eq_filter_of_sublist h hrules, registrationsOf_filter]
  rw [List.flatMap_eq_nil_iff] at hnone ⊢
  intro file hfile
  have hsub := Checker.defectsIn_filter program
    (fun r => Rule.isNamed kept r.rule.name) (registrationsOf rules exemptions) file
  rw [hnone file hfile] at hsub
  exact List.sublist_nil.1 hsub

theorem isFrom_of_rule_none {d : Diagnostic} (h : d.rule = none) (rules : List Rule) :
    d.isFrom rules = true := by
  simp [Diagnostic.isFrom, h]

/-- **A pass of fewer rules has what these rules find in a pass of all.** When a pass has a result,
so has one with the same exemptions and some of the rules in the same order: the diagnostics from
before the rules as they were, and what was found under the rules that are left, as it was and in
the order it had. -/
theorem runRules_isolated (program : Program) (exemptions : ExemptionList) (kept rules : List Rule)
    (hkept : kept.Sublist rules) (all : List Diagnostic)
    (h : runRules program rules exemptions = .ok all) :
    ∃ known found, program.preEmit = .ok known ∧ all = known ++ found ∧
      (∀ d ∈ found, ∃ rule ∈ rules, d.rule = some rule.name) ∧
      runRules program kept exemptions =
        .ok (known ++ found.filter (Diagnostic.isFrom kept)) ∧
      ((∀ d ∈ program.globals, d.rule = none) →
        runRules program kept exemptions = .ok (all.filter (Diagnostic.isFrom kept))) := by
  have hrules := nodup_of_runRules h
  obtain ⟨hnone, known, found, hknown, hfound, rfl⟩ := (runRules_eq_ok hrules).1 h
  have hrun : runRules program kept exemptions =
      .ok (known ++ found.filter (Diagnostic.isFrom kept)) :=
    (runRules_eq_ok (hrules.sublist hkept)).2 ⟨passDefects_sublist hkept hrules hnone, known, _,
      hknown, passFound_sublist hkept hrules hfound, rfl⟩
  refine ⟨known, found, hknown, rfl, fun d hd => (mem_passFound hfound d hd).1, hrun,
    fun hglobals => ?_⟩
  rw [hrun, List.filter_append,
    filter_preEmit hglobals hknown fun d hd => isFrom_of_rule_none hd kept]

/-! A string in a place that asks for either of two trusted types: two rules report it. -/

def trustedType (k : TrustedKind) : TypeInfo :=
  ⟨k.typeName, .object, [⟨"/n/@types/trusted-types/index.d.ts", "global." ++ k.typeName⟩], []⟩

def sinkFile : SourceFile :=
  ⟨"a.ts", false, "x = 'a'", [], none,
    [⟨.binaryExpression, 0, 7, none, some "=", none, none,
      [⟨.identifier, 0, 1, some "x", none, none, none, []⟩,
        ⟨.stringLiteral, 4, 7, some "a", none, some ⟨"string", .string, [], []⟩,
          some ⟨"T", .union, [], [trustedType .html, trustedType .script]⟩, []⟩]⟩]⟩

def sinkProgram : Program := ⟨[sinkFile], []⟩

def sinkFinding (k : TrustedKind) : Finding :=
  ⟨(Rule.trustedSink k).id, sinkFile.path, .error, ⟨4, 7, TrustedSink.message k, []⟩⟩

theorem gainsIn_sinkProgram : Checker.gainsIn sinkProgram
    (registrationsOf [.trustedSink .html, .trustedSink .script] .empty) sinkFile =
      [sinkFinding .html, sinkFinding .script] := by
  decide +kernel

theorem toDiagnostic_sinkFinding (k : TrustedKind) : (sinkFinding k).toDiagnostic sinkFile =
    .ok ((sinkFinding k).diagnosticAt ⟨1, 5⟩ (TrustedSink.message k)) := by
  have hstart : sinkFile.position 4 = .ok ⟨1, 5⟩ := by decide +kernel
  exact Finding.toDiagnostic_eq_ok.2 ⟨_, _, hstart, rfl, rfl⟩

theorem runRules_isolated_script :
    runRules sinkProgram [.trustedSink .html, .trustedSink .script] .empty =
      .ok [(sinkFinding .html).diagnosticAt ⟨1, 5⟩ (TrustedSink.message .html),
        (sinkFinding .script).diagnosticAt ⟨1, 5⟩ (TrustedSink.message .script)] ∧
    runRules sinkProgram [.trustedSink .script] .empty =
      .ok [(sinkFinding .script).diagnosticAt ⟨1, 5⟩ (TrustedSink.message .script)] := by
  have hall : runRules sinkProgram [.trustedSink .html, .trustedSink .script] .empty = .ok
      [(sinkFinding .html).diagnosticAt ⟨1, 5⟩ (TrustedSink.message .html),
        (sinkFinding .script).diagnosticAt ⟨1, 5⟩ (TrustedSink.message .script)] := by
    have hsorted : [sinkFinding .html, sinkFinding .script].mergeSort Checker.findingLe =
        [sinkFinding .html, sinkFinding .script] := List.mergeSort_of_pairwise (by decide)
    have hfound : foundIn sinkProgram
        (registrationsOf [.trustedSink .html, .trustedSink .script] .empty) sinkFile = .ok
          [(sinkFinding .html).diagnosticAt ⟨1, 5⟩ (TrustedSink.message .html),
            (sinkFinding .script).diagnosticAt ⟨1, 5⟩ (TrustedSink.message .script)] := by
      rw [foundIn, gainsIn_sinkProgram, hsorted]
      exact mapM_eq_ok.2 (.cons (toDiagnostic_sinkFinding .html)
        (.cons (toDiagnostic_sinkFinding .script) .nil))
    exact (runRules_eq_ok (by decide)).2 ⟨by decide +kernel, [], _, by rfl,
      passFound_eq_ok.2 ⟨[_], mapM_eq_ok.2 (.cons hfound .nil), rfl⟩, rfl⟩
  obtain ⟨-, -, -, -, -, -, hkept⟩ := runRules_isolated sinkProgram .empty [.trustedSink .script]
    [.trustedSink .html, .trustedSink .script] (by decide) _ hall
  refine ⟨hall, (hkept fun d hd => by cases hd).trans ?_⟩
  have hhtml : Diagnostic.isFrom [.trustedSink .script]
      ((sinkFinding .html).diagnosticAt ⟨1, 5⟩ (TrustedSink.message .html)) = false := by
    decide +kernel
  have hscript : Diagnostic.isFrom [.trustedSink .script]
      ((sinkFinding .script).diagnosticAt ⟨1, 5⟩ (TrustedSink.message .script)) = true := by
    decide +kernel
  rw [List.filter_cons_of_neg (by simp [hhtml]), List.filter_cons_of_pos hscript, List.filter_nil]

end Conformance
