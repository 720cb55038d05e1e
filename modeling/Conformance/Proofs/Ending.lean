import Conformance.Proofs.Findings
import Conformance.Proofs.Text.Lines
/-!
# How a pass ends

A pass comes to its end, or ends in a defect of a tree, or in a place whose line or column has
outgrown a word.  Where every place that may have to be shown has a line and a column
(`Program.Fits`) the last never happens, and then the defects decide, of which exemptions know
nothing: the first of the program ends the pass (`runRules_defect_first`).

Elsewhere they can matter.  A place is looked up only to be shown, so a finding without one ends the
pass in front of a defect of a later file, unless it is exempt (`runRules_hides_defect`).
-/
namespace Conformance

/-! ## Places of findings -/

def Finding.offsets (f : Finding) : List UInt32 :=
  f.report.start :: (f.report.fixes.flatMap (·.changes)).flatMap fun c => [c.start, c.stop]

theorem Fix.exists_changeText {position : UInt32 → Except Text.Overflow Text.Position}
    {c : TextChange} (hstart : ∃ p, position c.start = .ok p) (hstop : ∃ p, position c.stop = .ok p) :
    ∃ text, changeText position c = .ok text := by
  obtain ⟨p, hp⟩ := hstart
  obtain ⟨q, hq⟩ := hstop
  by_cases heq : c.start = c.stop
  · exact ⟨_, bind_eq_ok.2 ⟨p, hp, if_pos heq⟩⟩
  · exact ⟨_, bind_eq_ok.2 ⟨p, hp, (if_neg heq).trans (bind_eq_ok.2 ⟨q, hq, rfl⟩)⟩⟩

theorem Fix.exists_render {fixes : List Fix}
    {position : UInt32 → Except Text.Overflow Text.Position}
    (h : ∀ c ∈ fixes.flatMap (·.changes), ∀ offset ∈ [c.start, c.stop],
      ∃ p, position offset = .ok p) :
    ∃ text, render fixes position = .ok text := by
  obtain ⟨texts, htexts⟩ := exists_mapM_eq_ok fun c hc =>
    exists_changeText (h c hc c.start (by simp)) (h c hc c.stop (by simp))
  rw [render]
  split
  · exact ⟨_, rfl⟩
  · rw [htexts]
    exact ⟨_, rfl⟩

theorem Finding.exists_toDiagnostic {file : SourceFile} {f : Finding}
    (h : ∀ offset ∈ f.offsets, ∃ p, file.position offset = .ok p) :
    ∃ d, f.toDiagnostic file = .ok d := by
  obtain ⟨position, hposition⟩ := h f.report.start List.mem_cons_self
  obtain ⟨fixes, hfixes⟩ := Fix.exists_render fun c hc offset hoffset =>
    h offset (List.mem_cons_of_mem _ (List.mem_flatMap.2 ⟨c, hc, hoffset⟩))
  have hmessage : ∃ message, f.fullMessage file = .ok message := by
    rw [fullMessage, hfixes]
    cases fixes <;> exact ⟨_, rfl⟩
  obtain ⟨message, hmessage⟩ := hmessage
  exact ⟨_, toDiagnostic_eq_ok.2 ⟨position, message, hposition, hmessage, rfl⟩⟩

/-! ## Places of programs -/

/-- The lines of the files of a program can be counted, and every place that a pass of some rules
may have to show has a line and a column: those of the messages of the type checker, and those of
all that the rules find, were nothing exempt. -/
structure Program.Fits (program : Program) (rules : List Rule) : Prop where
  lines : ∀ file ∈ program.files, ∃ lines, file.lineMap = .ok lines
  messages : ∀ file ∈ program.files, ∀ m ∈ file.messages, ∀ offset, m.start = some offset →
    ∃ p, file.position offset = .ok p
  findings : ∀ file ∈ program.files, file.isDeclaration = false →
    ∀ f ∈ findingsIn rules .empty program file, ∀ offset ∈ f.offsets,
      ∃ p, file.position offset = .ok p

theorem SourceFile.exists_compilerDiagnostics {file : SourceFile} {lines : Text.LineMap}
    (hlines : file.lineMap = .ok lines) (h : ∀ m ∈ file.messages, ∀ offset, m.start = some offset →
      ∃ p, file.position offset = .ok p) :
    ∃ ds, file.compilerDiagnostics = .ok ds := by
  rw [compilerDiagnostics, hlines]
  refine exists_mapM_eq_ok fun m hm => ?_
  rw [diagnosticOf]
  cases hstart : m.start with
  | none => exact ⟨_, rfl⟩
  | some offset =>
    obtain ⟨p, hp⟩ := h m hm offset hstart
    obtain ⟨lines', hlines', hp⟩ := bind_eq_ok.1 hp
    cases hlines.symm.trans hlines'
    simp only [Option.mapM_some, hp]
    exact ⟨_, rfl⟩

theorem Program.Fits.exists_preEmit {program : Program} {rules : List Rule}
    (h : program.Fits rules) : ∃ known, program.preEmit = .ok known := by
  have htold : ∃ told, program.files.mapM SourceFile.compilerDiagnostics = .ok told := by
    refine exists_mapM_eq_ok fun file hfile => ?_
    obtain ⟨lines, hlines⟩ := h.lines file hfile
    exact SourceFile.exists_compilerDiagnostics hlines (h.messages file hfile)
  obtain ⟨told, htold⟩ := htold
  exact ⟨_, bind_eq_ok.2 ⟨told, htold, rfl⟩⟩

theorem Program.Fits.exists_foundIn {program : Program} {rules : List Rule}
    (h : program.Fits rules) (exemptions : ExemptionList) {file : SourceFile}
    (hfile : file ∈ program.files) :
    ∃ ds, foundIn program (registrationsOf rules exemptions) file = .ok ds := by
  refine exists_mapM_eq_ok fun f hf => Finding.exists_toDiagnostic fun offset hoffset => ?_
  rw [List.mem_mergeSort, registrationsOf_eq, Checker.gainsIn_exempted] at hf
  have hf := (List.mem_filter.1 hf).1
  cases hdecl : file.isDeclaration with
  | true =>
    rw [Checker.gainsIn, if_pos hdecl] at hf
    cases hf
  | false =>
    rw [Checker.gainsIn_registrationsOf rules .empty program hdecl] at hf
    exact h.findings file hfile hdecl f hf offset hoffset

/-- **Where every place can be shown, no pass overflows.** -/
theorem Program.Fits.runRules_ne_overflow {program : Program} {rules : List Rule}
    (h : program.Fits rules) (hrules : rules.Nodup) (exemptions : ExemptionList)
    (o : Text.Overflow) : runRules program rules exemptions ≠ .error (.overflow o) := by
  intro hrun
  have hfault := faultOf_runRules hrules program exemptions
  rw [hrun] at hfault
  obtain ⟨known, hknown⟩ := h.exists_preEmit
  rw [passFaults, hknown] at hfault
  rcases List.mem_append.1 (List.mem_of_head? hfault.symm) with hmem | hmem
  · cases hmem
  · obtain ⟨file, hfile, hmem⟩ := List.mem_flatMap.1 hmem
    obtain ⟨ds, hds⟩ := h.exists_foundIn exemptions hfile
    rw [hds] at hmem
    rcases List.mem_append.1 hmem with hmem | hmem
    · obtain ⟨d, -, hd⟩ := List.mem_map.1 hmem
      cases hd
    · cases hmem

/-! ## Defects -/

def PassError.defect? : PassError → Option Defect
  | .defect d => some d
  | _ => none

theorem filterMap_passFaults (program : Program) (rules : List Rule) (exemptions : ExemptionList) :
    (passFaults program rules exemptions).filterMap PassError.defect? =
      program.defects rules := by
  have hoverflow : ∀ os : List Text.Overflow,
      (os.map PassError.overflow).filterMap PassError.defect? = [] := by
    intro os
    simp [List.filterMap_map, Function.comp_def, PassError.defect?]
  have hdefect : ∀ ds : List Defect,
      (ds.map PassError.defect).filterMap PassError.defect? = ds := by
    intro ds
    simp [List.filterMap_map, Function.comp_def, PassError.defect?]
  rw [passFaults, List.filterMap_append, hoverflow, List.nil_append, List.filterMap_flatMap,
    ← passDefects_eq program rules exemptions, passDefects]
  congr 1
  funext file
  rw [List.filterMap_append, hoverflow, hdefect, List.append_nil]

theorem runRules_cases {rules : List Rule} (hrules : rules.Nodup) {program : Program}
    {exemptions : ExemptionList}
    (hshown : ∀ o, runRules program rules exemptions ≠ .error (.overflow o)) :
    (∃ all, runRules program rules exemptions = .ok all) ∨
      ∃ d, runRules program rules exemptions = .error (.defect d) := by
  cases hrun : runRules program rules exemptions with
  | ok all => exact .inl ⟨all, rfl⟩
  | error e =>
    cases e with
    | duplicateRule name => exact absurd hrun (runRules_ne_duplicateRule hrules _ _ name)
    | overflow o => exact absurd hrun (hshown o)
    | defect d => exact .inr ⟨d, rfl⟩

/-- A pass that does not overflow ends in the first defect of the program, or has a result if there
is none. -/
theorem runRules_eq_defect_iff {rules : List Rule} (hrules : rules.Nodup) {program : Program}
    {exemptions : ExemptionList}
    (hshown : ∀ o, runRules program rules exemptions ≠ .error (.overflow o)) {d : Defect} :
    runRules program rules exemptions = .error (.defect d) ↔
      (program.defects rules).head? = some d := by
  rcases runRules_cases hrules hshown with ⟨all, hrun⟩ | ⟨d', hrun⟩
  · obtain ⟨hnone, -⟩ := (runRules_eq_ok hrules).1 hrun
    rw [passDefects_eq] at hnone
    simp [hrun, hnone]
  · have hfault := faultOf_runRules hrules program exemptions
    rw [hrun] at hfault
    obtain ⟨faults, hfaults⟩ := List.head?_eq_some_iff.1 hfault.symm
    rw [hrun, ← filterMap_passFaults program rules exemptions, hfaults]
    simp [PassError.defect?]

/-- **A pass ends in a defect exactly when a tree has one, and then in the first.** For distinct
rules, and as long as no place that is to be shown has outgrown a word:
- there is a defect when some node of a file that is no declaration file lacks a part that one of
  the rules asks for;
- the one that ends the pass is the first by file, then by node in preorder, then by rule;
- exemptions play no part: with any two lists of them the pass ends in the same defect, or in none
  with either.
In a program that fits no place outgrows a word, whatever is exempt. -/
theorem runRules_defect_first (program : Program) (rules : List Rule) (hrules : rules.Nodup) :
    (∀ exemptions, (∀ o, runRules program rules exemptions ≠ .error (.overflow o)) →
      ((∃ d, runRules program rules exemptions = .error (.defect d)) ↔
        ∃ file ∈ program.files, file.isDeclaration = false ∧
          ∃ n ∈ Node.preorderOf file.statements, ∃ rule ∈ rules, rule.isLacking n = true) ∧
      ∀ d, runRules program rules exemptions = .error (.defect d) ↔
        (program.defects rules).head? = some d) ∧
    (∀ exemptions exemptions', (∀ o, runRules program rules exemptions ≠ .error (.overflow o)) →
      (∀ o, runRules program rules exemptions' ≠ .error (.overflow o)) →
      (∃ d, runRules program rules exemptions = .error (.defect d) ∧
        runRules program rules exemptions' = .error (.defect d)) ∨
      ∃ all all', runRules program rules exemptions = .ok all ∧
        runRules program rules exemptions' = .ok all') ∧
    (program.Fits rules →
      ∀ exemptions o, runRules program rules exemptions ≠ .error (.overflow o)) := by
  refine ⟨fun exemptions hshown => ⟨?_, fun d => runRules_eq_defect_iff hrules hshown⟩,
    fun exemptions exemptions' hshown hshown' => ?_, fun hfits exemptions o =>
    hfits.runRules_ne_overflow hrules exemptions o⟩
  · rw [← Program.defects_ne_nil, ← List.isSome_head?, Option.isSome_iff_exists]
    exact exists_congr fun d => runRules_eq_defect_iff hrules hshown
  · cases hhead : (program.defects rules).head? with
    | some d =>
      exact .inl ⟨d, (runRules_eq_defect_iff hrules hshown).2 hhead,
        (runRules_eq_defect_iff hrules hshown').2 hhead⟩
    | none =>
      have hresult : ∀ exemptions, (∀ o, runRules program rules exemptions ≠ .error (.overflow o)) →
          ∃ all, runRules program rules exemptions = .ok all := by
        intro exemptions hshown
        refine (runRules_cases hrules hshown).resolve_right ?_
        rintro ⟨d, hd⟩
        cases hhead.symm.trans ((runRules_eq_defect_iff hrules hshown).1 hd)
      obtain ⟨all, hall⟩ := hresult exemptions hshown
      obtain ⟨all', hall'⟩ := hresult exemptions' hshown'
      exact .inr ⟨all, all', hall, hall'⟩

/-- A declaration file with a call of nothing, and a file with an assignment of nothing in front of
a call of nothing. -/
def brokenProgram : Program where
  files :=
    [⟨"src/a.d.ts", false, "", [], none, [⟨.callExpression, 0, 2, none, none, none, none, []⟩]⟩,
      ⟨"src/legacy/b.ts", false, "x =; new;", [], none,
        [⟨.expressionStatement, 0, 4, none, none, none, none,
          [⟨.binaryExpression, 0, 3, none, some "=", none, none,
            [⟨.identifier, 0, 1, some "x", none, none, none, []⟩]⟩]⟩,
          ⟨.newExpression, 5, 8, none, none, none, none, []⟩]⟩]
  globals := []

def legacySinks : ExemptionList :=
  ⟨[("ban-bare-string-to-trusted-html-sink", ⟨none, [], ["src/legacy".toList], []⟩)]⟩

theorem fits_brokenProgram : brokenProgram.Fits Rule.all where
  lines file hfile := by
    have hsize : ∀ file ∈ brokenProgram.files, Text.byteLength file.text.toList < UInt32.size := by
      decide
    exact Text.LineMap.exists_ofText (hsize file hfile)
  messages file hfile m hm := by
    have hnone : ∀ file ∈ brokenProgram.files, file.messages = [] := by decide
    rw [hnone file hfile] at hm
    cases hm
  findings file hfile _ f hf := by
    have hnone : ∀ file ∈ brokenProgram.files,
        findingsIn Rule.all .empty brokenProgram file = [] := by
      decide +kernel
    rw [hnone file hfile] at hf
    cases hf

theorem runRules_defect_first_legacy :
    runRules brokenProgram Rule.all legacySinks = .error (.defect
      ⟨"ban-bare-string-to-trusted-html-sink", "src/legacy/b.ts", .binaryExpression, 0,
        "assigned value"⟩) := by
  obtain ⟨hdefect, -, hshown⟩ := runRules_defect_first brokenProgram Rule.all (by decide)
  exact ((hdefect legacySinks (hshown fits_brokenProgram legacySinks)).2 _).2 (by decide +kernel)

/-- A comparison that ends at the largest word of a file of one line, in front of a file with a
statement of nothing. -/
def hidingProgram : Program where
  files :=
    [⟨"old/a.ts", false, "x === NaN", [], none,
        [⟨.binaryExpression, 0, 4294967295, none, some "===", none, none,
          [⟨.identifier, 0, 1, some "x", none, none, none, []⟩,
            ⟨.identifier, 6, 9, some "NaN", none, none, none, []⟩]⟩]⟩,
      ⟨"b.ts", false, "f()", [], none,
        [⟨.expressionStatement, 0, 3, none, none, none, none, []⟩]⟩]
  globals := []

def oldComparisons : ExemptionList := ⟨[("equals-nan", ⟨none, [], ["old".toList], []⟩)]⟩

/-- The pass ends at the place of the comparison, and in the defect behind it if the comparison is
exempt. -/
theorem runRules_hides_defect :
    Rule.all.Nodup ∧
    (∃ file ∈ hidingProgram.files, file.isDeclaration = false ∧
      ∃ n ∈ Node.preorderOf file.statements, ∃ rule ∈ Rule.all, rule.isLacking n = true) ∧
    (hidingProgram.defects Rule.all).head? =
      some ⟨"must-use-promises", "b.ts", .expressionStatement, 0, "expression"⟩ ∧
    runRules hidingProgram Rule.all .empty = .error (.overflow {}) ∧
    runRules hidingProgram Rule.all oldComparisons = .error (.defect
      ⟨"must-use-promises", "b.ts", .expressionStatement, 0, "expression"⟩) := by
  refine ⟨by decide, Program.defects_ne_nil.1 ?_, by decide +kernel, by decide +kernel,
    by decide +kernel⟩
  decide +kernel

end Conformance
