import Conformance.Proofs.Exempting
import Conformance.Proofs.Pass
import Conformance.Proofs.Project.Emitting
import Conformance.Proofs.Project.Loading
import Conformance.Proofs.Solution.Order
import Conformance.Run.Direct
/-!
# What an exit code of zero says

The exit code of a run is that of one list: what is wrong with the exemption file, with the root
files, with the types, with what the rules found and with the outputs all ends up there, and zero
means that the list is empty.  Stage by stage an empty list is shown to say that the stage went well
in the words of the stage, so that zero is both sound and complete (`exitCode_eq_zero_iff_clean`).
-/
namespace Conformance

/-! ## Findings -/

/-- A rule finds something in a file, were there no exemptions: one of its handlers reports on a
node of its kind. -/
def Rule.Finds (program : Program) (file : SourceFile) (rule : Rule) : Prop :=
  ∃ n ∈ Node.preorderOf file.statements, ∃ h ∈ rule.exemptHandlers noExemption, h.1 = n.kind ∧
    ∃ reports, h.2 ⟨program, file, rule.id⟩ n = .ok reports ∧ reports ≠ []

theorem mem_registrationsOf {rules : List Rule} {exemptions : ExemptionList} {r : Registration} :
    r ∈ registrationsOf rules exemptions ↔ ∃ rule ∈ rules, ∃ h ∈ rule.exemptHandlers noExemption,
      r = ⟨h.1, rule.id, h.2.dropping (exemptions.isExempt rule.name)⟩ := by
  rw [registrationsOf, List.mem_flatMap]
  refine exists_congr fun rule => and_congr_right fun _ => ?_
  rw [rule.exemptHandlers_eq, List.map_map, List.mem_map]
  simp only [Function.comp_apply, eq_comm]

theorem Checker.gain_dropping_eq_nil {program : Program} {file : SourceFile} {rule : RuleId}
    {isExempt : ProjectPath → Bool} {kind : NodeKind} {h : Handler} {n : Node} :
    gain (call program file) (⟨kind, rule, h.dropping isExempt⟩, n) = [] ↔
      ((∃ reports, h ⟨program, file, rule⟩ n = .ok reports ∧ reports ≠ []) →
        isExempt file.path = true) := by
  simp only [gain, call, Handler.dropping]
  cases h ⟨program, file, rule⟩ n with
  | error d => simp [Except.map]
  | ok reports => cases isExempt file.path <;> simp [Except.map]

theorem foundIn_eq_nil {program : Program} {rules : List Rule} {exemptions : ExemptionList}
    {file : SourceFile} {ds : List Diagnostic}
    (h : foundIn program (registrationsOf rules exemptions) file = .ok ds) : ds = [] ↔
      (file.isDeclaration = false → ∀ rule ∈ rules, rule.Finds program file →
        exemptions.isExempt rule.name file.path = true) := by
  have hsort : ds = [] ↔
      Checker.gainsIn program (registrationsOf rules exemptions) file = [] := by
    rw [← List.length_eq_zero_iff, ← (mapM_eq_ok.1 h).length_eq, List.length_mergeSort,
      List.length_eq_zero_iff]
  rw [hsort, Checker.gainsIn_eq_nil]
  refine imp_congr_right fun _ => ?_
  constructor
  · rintro hgain rule hrule ⟨n, hn, h, hh, hkind, hreports⟩
    have hnil := hgain n hn _ (mem_registrationsOf.2 ⟨rule, hrule, h, hh, rfl⟩) hkind
    exact Checker.gain_dropping_eq_nil.1 hnil hreports
  · intro hexempt n hn r hr hkind
    obtain ⟨rule, hrule, h, hh, rfl⟩ := mem_registrationsOf.1 hr
    refine Checker.gain_dropping_eq_nil.2 fun hreports => ?_
    exact hexempt rule hrule ⟨n, hn, h, hh, hkind, hreports⟩

/-! ## Projects -/

theorem Rule.nodup_all : all.Nodup := by decide

namespace Project

theorem nodup_enabledRules {disabled : List String} {rules : List Rule}
    (h : enabledRules disabled = .ok rules) : rules.Nodup := by
  unfold enabledRules at h
  split at h
  · cases h
  · cases h
    exact Rule.nodup_all.filter _

def program (d : Disk) (p : Project) : Program := loadProgram d p.dir (p.roots d)

/-- A check finds nothing wrong with a project on a disk. The exemption file, if there is one, can
be read and is sound; every root file reads as a tree, without a message of the type checker; and in
one that is no declaration file an enabled rule finds something only if it is exempt. -/
structure Conforms (d : Disk) (p : Project) : Prop where
  exemptions : ∀ path, p.exemptionConfig = some path →
    ∃ text, d.readText path = .ok text ∧ ExemptionFile.IsSound text
  read : ∀ root ∈ p.roots d, ∃ file, d.Reads root file
  silent : ∀ root ∈ p.roots d, ∀ file, d.Reads root file → file.messages = []
  conforming : ∀ root ∈ p.roots d, ∀ file, d.Reads root file → file.isDeclaration = false →
    ∀ rule ∈ p.rules, rule.Finds (p.program d) file →
      (p.exemptions d).list.isExempt rule.name file.path = true

/-- Nothing is wrong with a project on a disk: it conforms, and every output can be saved, if
outputs are wanted. -/
structure Clean (d : Disk) (p : Project) : Prop extends Conforms d p where
  saved : p.noEmit = false →
    ∀ a ∈ (d.saveAll (p.outputs (p.program d).files)).1, a.2 = .ok ()

theorem forall_mem_program_files {d : Disk} {p : Project} {P : SourceFile → Prop} :
    (∀ file ∈ (p.program d).files, P file) ↔
      ∀ root ∈ p.roots d, ∀ file, d.Reads root file → P file := by
  simp only [program, mem_files_loadProgram]
  exact ⟨fun h root hroot file hfile => h file ⟨root, hroot, hfile⟩,
    fun h file ⟨root, hroot, hfile⟩ => h root hroot file hfile⟩

theorem globals_program_eq_nil {d : Disk} {p : Project} :
    (p.program d).globals = [] ↔ ∀ root ∈ p.roots d, ∃ file, d.Reads root file :=
  globals_loadProgram_eq_nil

theorem check_eq_ok {d : Disk} {p : Project} {program : Program} {found : List Diagnostic}
    (hrules : p.rules.Nodup) (h : p.check d program = .ok found) :
    ∃ known more, program.preEmit = .ok known ∧
      passFound program p.rules (p.exemptions d).list = .ok more ∧
      found = (p.exemptions d).diagnostics ++ (known ++ more) := by
  simp only [check] at h
  split at h
  · rename_i all hall
    obtain ⟨-, known, more, hknown, hmore, rfl⟩ := (runRules_eq_ok hrules).1 hall
    exact ⟨known, more, hknown, hmore, (Except.ok.inj h).symm⟩
  · rename_i hrepeated
    exact absurd hrepeated (runRules_ne_duplicateRule hrules _ _ _)
  · cases h

theorem check_eq_nil {d : Disk} {p : Project} {found : List Diagnostic} (hrules : p.rules.Nodup)
    (h : p.check d (p.program d) = .ok found) : found = [] ↔ p.Conforms d := by
  obtain ⟨known, more, hknown, hmore, rfl⟩ := check_eq_ok hrules h
  obtain ⟨blocks, hblocks, rfl⟩ := passFound_eq_ok.1 hmore
  rw [List.append_eq_nil_iff, List.append_eq_nil_iff, exemptions_diagnostics_eq_nil,
    Program.preEmit_eq_nil hknown, List.flatten_eq_nil_iff,
    forall_mem_iff_of_forall₂ ((mapM_eq_ok.1 hblocks).imp fun file ds hds => foundIn_eq_nil hds),
    forall_mem_program_files, forall_mem_program_files, globals_program_eq_nil]
  constructor
  · rintro ⟨hexemptions, ⟨hread, hsilent⟩, hfound⟩
    exact ⟨hexemptions, hread, hsilent, hfound⟩
  · intro hp
    exact ⟨hp.exemptions, ⟨hp.read, hp.silent⟩, hp.conforming⟩

end Project

/-! ## Runs -/

namespace DirectRequest

theorem nodup_rules_of_settle {d : Disk} {r : DirectRequest} {p : Project}
    (h : r.settle d = .ok p) : p.rules.Nodup := by
  unfold settle at h
  split at h
  · obtain ⟨-, c, -, -, hp⟩ := Solution.load_eq_ok.1 h
    exact Project.nodup_enabledRules (Project.settles_of_ofConfig hp).rules
  · cases h
    exact Rule.nodup_all

theorem runProject_eq (d : Disk) (p : Project) : runProject d p =
    match p.check d (p.program d) with
    | .error e => (.error e, d)
    | .ok found =>
      let emitted := p.emit d (p.program d) (p.noEmitOnError && !found.isEmpty)
      (.ok (.ofDiagnostics (found ++ emitted.1.diagnostics)), emitted.2) := rfl

theorem run_of_settle {d : Disk} {r : DirectRequest} {p : Project} {o : Outcome}
    (hsettle : r.settle d = .ok p) (h : (r.run d).1 = .ok o) :
    ∃ found, p.check d (p.program d) = .ok found ∧ o = .ofDiagnostics (found ++
      (p.emit d (p.program d) (p.noEmitOnError && !found.isEmpty)).1.diagnostics) := by
  rw [run, hsettle] at h
  dsimp only at h
  rw [runProject_eq] at h
  cases hcheck : p.check d (p.program d) with
  | error e =>
    rw [hcheck] at h
    cases h
  | ok found =>
    rw [hcheck] at h
    cases h
    exact ⟨found, rfl, rfl⟩

theorem diagnostics_eq_nil_iff {d : Disk} {r : DirectRequest} {p : Project} {o : Outcome}
    (hsettle : r.settle d = .ok p) (h : (r.run d).1 = .ok o) :
    o.diagnostics = [] ↔ p.Clean d := by
  obtain ⟨found, hcheck, rfl⟩ := run_of_settle hsettle h
  have hfound := Project.check_eq_nil (nodup_rules_of_settle hsettle) hcheck
  rw [Outcome.ofDiagnostics, List.append_eq_nil_iff]
  -- with nothing found the outputs are not held back, so what is attempted is all of them
  constructor
  · rintro ⟨rfl, hemit⟩
    rw [List.isEmpty_nil, Bool.not_true, Bool.and_false,
      Project.emit_diagnostics_eq_nil] at hemit
    exact ⟨hfound.1 rfl, hemit⟩
  · intro hclean
    cases hfound.2 hclean.toConforms
    rw [List.isEmpty_nil, Bool.not_true, Bool.and_false, Project.emit_diagnostics_eq_nil]
    exact ⟨rfl, hclean.saved⟩

theorem mem_diagnostics_of_loadFile {d : Disk} {r : DirectRequest} {p : Project} {o : Outcome}
    (hsettle : r.settle d = .ok p) (h : (r.run d).1 = .ok o) {root : Path}
    (hroot : root ∈ p.roots d) {diagnostic : Diagnostic}
    (hload : Project.loadFile d p.dir root = .error diagnostic) : diagnostic ∈ o.diagnostics := by
  obtain ⟨found, hcheck, rfl⟩ := run_of_settle hsettle h
  have hglobal : diagnostic ∈ (p.program d).globals := by
    rw [Project.program, Project.loadProgram_eq]
    exact List.mem_filterMap.2 ⟨root, hroot, by simp [Project.loadFailure?, hload]⟩
  have hfound : diagnostic ∈ found := by
    obtain ⟨known, more, hknown, -, rfl⟩ :=
      Project.check_eq_ok (nodup_rules_of_settle hsettle) hcheck
    obtain ⟨told, -, rfl⟩ := Program.preEmit_eq_ok.1 hknown
    refine List.mem_append_right _ (List.mem_append_left _ ?_)
    exact List.mem_append_left _ hglobal
  exact List.mem_append_left _ hfound

/-- **The exit code of a direct run is zero exactly when there is a project and nothing is wrong
with it.** And no root file is lost: one that is not in the program is in the diagnostics. -/
theorem exitCode_eq_zero_iff_clean (d : Disk) (r : DirectRequest) (o : Outcome)
    (h : (r.run d).1 = .ok o) :
    (o.exitCode = 0 ↔ ∃ p, r.settle d = .ok p ∧ p.Clean d) ∧
    ∀ p, r.settle d = .ok p → ∀ root ∈ p.roots d,
      (∃ file ∈ (p.program d).files, d.Reads root file) ∨
      ∃ diagnostic ∈ o.diagnostics, Project.loadFile d p.dir root = .error diagnostic := by
  constructor
  · cases hsettle : r.settle d with
    | error e =>
      rw [run, hsettle] at h
      cases h
      simp [Outcome.exitCode, Outcome.ofDiagnostics]
    | ok p =>
      rw [o.exitCode_eq_zero_iff, diagnostics_eq_nil_iff hsettle h]
      obtain ⟨found, -, rfl⟩ := run_of_settle hsettle h
      simp [Outcome.ofDiagnostics]
  · intro p hsettle root hroot
    cases hload : Project.loadFile d p.dir root with
    | ok file =>
      have hreads := (Project.loadFile_eq_ok p.dir).1 hload
      exact .inl ⟨file, Project.mem_files_loadProgram.2 ⟨root, hroot, hreads⟩, hreads⟩
    | error diagnostic =>
      exact .inr ⟨diagnostic, mem_diagnostics_of_loadFile hsettle h hroot hload, rfl⟩

/-- A project whose one file has a comparison with NaN, which is exempt, and an output. -/
def tidy : Disk where
  entries :=
    [([['p']], .dir),
      ([['p'], "tsconfig.json".toList], .file ("\x7b\"compilerOptions\":\x7b\"outDir\":\"out\"," ++
        "\"plugins\":[\x7b\"name\":\"tsconform\",\"exemptionConfig\":\"e.json\"\x7d]\x7d," ++
        "\"files\":[\"n.tree.json\"]\x7d").toUTF8),
      ([['p'], "e.json".toList],
        .file "\x7b\"equals-nan\":\x7b\"prefixes\":[\"old\"]\x7d\x7d".toUTF8),
      ([['p'], "n.tree.json".toList], .file (
        "\x7b\"fileName\":\"old/n.ts\",\"text\":\"x === NaN\",\"output\":\"\",\"statements\":[" ++
        "\x7b\"kind\":\"BinaryExpression\",\"pos\":0,\"end\":9,\"operator\":\"===\"," ++
        "\"children\":[\x7b\"kind\":\"Identifier\",\"pos\":0,\"end\":1,\"text\":\"x\"\x7d," ++
        "\x7b\"kind\":\"Identifier\",\"pos\":6,\"end\":9,\"text\":\"NaN\"\x7d]\x7d]\x7d").toUTF8)]
  here := []

theorem exitCode_eq_zero_iff_clean_tidy : ∃ o, (run tidy ⟨.ofString "/p", [], none⟩).1 = .ok o ∧
    o.exitCode = 0 ∧ ∃ p, settle tidy ⟨.ofString "/p", [], none⟩ = .ok p ∧ p.Clean tidy := by
  have hcode : (run tidy ⟨.ofString "/p", [], none⟩).1.toOption.map (·.exitCode) = some 0 := by
    decide +kernel
  obtain ⟨o, hrun, hzero⟩ := exists_eq_ok_of_map hcode
  exact ⟨o, hrun, hzero, (exitCode_eq_zero_iff_clean tidy _ o hrun).1.1 hzero⟩

end DirectRequest

end Conformance
