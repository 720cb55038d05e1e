import Conformance.Proofs.Findings
/-!
# What a pass has to say

Everything that a pass comes to is one list: what is said about the program, what the type checker
said about each file, and then a block for each file that is no declaration file.  A block tells the
findings of its file, each once and in the order of the text; where two start and stop at the same
places the one that the walk met first comes first, and at one node the rule that is listed first.

The order is by file, not by name, so files of the same name have a block each.
-/
namespace Conformance

/-- A diagnostic tells a finding: under its rule, at the path of its file, and at the line and
column where it starts. -/
structure Finding.IsTold (file : SourceFile) (f : Finding) (d : Diagnostic) : Prop where
  severity : d.severity = f.severity
  code : d.code = f.rule.code
  rule : d.rule = some f.rule.name
  message : f.fullMessage file = .ok d.message
  location : ∃ l, d.location = some l ∧ l.path = file.path ∧ l.start = f.report.start ∧
    file.position f.report.start = .ok l.position

/-- A block of diagnostics tells the findings of a file, each once, by where they start and then by
where they stop, and otherwise in the order of the walk. -/
def IsBlock (rules : List Rule) (exemptions : ExemptionList) (program : Program) (file : SourceFile)
    (block : List Diagnostic) : Prop :=
  ∃ found, IsStableSort Checker.findingLe found (findingsIn rules exemptions program file) ∧
    List.Forall₂ (Finding.IsTold file) found block

theorem IsBlock.length_eq {rules : List Rule} {exemptions : ExemptionList} {program : Program}
    {file : SourceFile} {block : List Diagnostic} (h : IsBlock rules exemptions program file block) :
    block.length = (findingsIn rules exemptions program file).length := by
  obtain ⟨found, hsorted, htold⟩ := h
  rw [← htold.length_eq, hsorted.perm.length_eq]

theorem Finding.isTold {file : SourceFile} {f : Finding} {d : Diagnostic} (h : f.file = file.path)
    (hd : f.toDiagnostic file = .ok d) : f.IsTold file d := by
  obtain ⟨position, message, hposition, hmessage, rfl⟩ := toDiagnostic_eq_ok.1 hd
  exact ⟨rfl, rfl, rfl, hmessage, _, rfl, h, rfl, hposition⟩

theorem file_of_mem_findingsIn {rules : List Rule} {exemptions : ExemptionList} {program : Program}
    {file : SourceFile} {f : Finding} (h : f ∈ findingsIn rules exemptions program file) :
    f.file = file.path := by
  obtain ⟨n, -, h⟩ := List.mem_flatMap.1 h
  obtain ⟨r, -, h⟩ := List.mem_flatMap.1 h
  obtain ⟨report, -, rfl⟩ := List.mem_map.1 h
  rfl

theorem isBlock_of_foundIn {rules : List Rule} {exemptions : ExemptionList} {program : Program}
    {file : SourceFile} {block : List Diagnostic} (hdecl : file.isDeclaration = false)
    (h : foundIn program (registrationsOf rules exemptions) file = .ok block) :
    IsBlock rules exemptions program file block := by
  rw [foundIn, Checker.gainsIn_registrationsOf rules exemptions program hdecl, mapM_eq_ok] at h
  have htold := (List.forall₂_and_left _ _).2 ⟨fun f hf => List.mem_mergeSort.1 hf, h⟩
  exact ⟨_, Checker.isStableSort_findings _, htold.imp fun f d hfd =>
    Finding.isTold (file_of_mem_findingsIn hfd.1) hfd.2⟩

theorem foundIn_of_isDeclaration {program : Program} {rs : List Registration} {file : SourceFile}
    (h : file.isDeclaration = true) : foundIn program rs file = .ok [] := by
  rw [foundIn, Checker.gainsIn, if_pos h, List.mergeSort_nil]
  rfl

theorem exists_blocks {rules : List Rule} {exemptions : ExemptionList} {program : Program} :
    ∀ {files : List SourceFile} {blocks : List (List Diagnostic)},
    files.mapM (foundIn program (registrationsOf rules exemptions)) = .ok blocks →
      ∃ blocks', blocks'.flatten = blocks.flatten ∧
        List.Forall₂ (IsBlock rules exemptions program)
          (files.filter fun file => !file.isDeclaration) blocks'
  | [], _, h => by
    cases h
    exact ⟨[], rfl, .nil⟩
  | file :: files, blocks, h => by
    obtain ⟨block, rest, hblock, hrest, rfl⟩ := List.forall₂_cons_left_iff.1 (mapM_eq_ok.1 h)
    obtain ⟨rest', hflat, hblocks⟩ := exists_blocks (mapM_eq_ok.2 hrest)
    rw [List.filter_cons, List.flatten_cons, ← hflat]
    cases hdecl : file.isDeclaration with
    | true =>
      cases (foundIn_of_isDeclaration hdecl).symm.trans hblock
      exact ⟨rest', rfl, hblocks⟩
    | false => exact ⟨block :: rest', rfl, .cons (isBlock_of_foundIn hdecl hblock) hblocks⟩

/-- **A pass says everything once and in order.** When a pass has a result, this is
- what is said about the program, then for each file, in the order of the roots, what the type
  checker said about it, with its severity, code and message;
- then for each file that is no declaration file, in the same order, a block that tells what the
  rules found in it;
and no handler of a rule failed at any node of these files, so that nothing is missing. -/
theorem runRules_merges (program : Program) (rules : List Rule) (exemptions : ExemptionList)
    (all : List Diagnostic) (h : runRules program rules exemptions = .ok all) :
    ∃ known blocks : List (List Diagnostic),
      all = program.globals ++ known.flatten ++ blocks.flatten ∧
      List.Forall₂ (fun file ds => List.Forall₂ (CheckerMessage.IsTold file) file.messages ds)
        program.files known ∧
      List.Forall₂ (IsBlock rules exemptions program)
        (program.files.filter fun file => !file.isDeclaration) blocks ∧
      ∀ file ∈ program.files, file.isDeclaration = false →
        ∀ n ∈ Node.preorderOf file.statements, ∀ r ∈ rules,
          ∀ handler ∈ r.exemptHandlers (exemptions.isExempt r.name), handler.1 = n.kind →
            ∃ reports, handler.2 ⟨program, file, r.id⟩ n = .ok reports := by
  obtain ⟨hnone, _, _, hknown, hfound, rfl⟩ := (runRules_eq_ok (nodup_of_runRules h)).1 h
  obtain ⟨told, htold, rfl⟩ := Program.preEmit_eq_ok.1 hknown
  obtain ⟨_, hblocks, rfl⟩ := passFound_eq_ok.1 hfound
  obtain ⟨blocks, hflat, hblocks⟩ := exists_blocks hblocks
  refine ⟨told, blocks, by rw [hflat], ?_, hblocks, ?_⟩
  · exact htold.imp fun file ds hds => SourceFile.isTold_of_compilerDiagnostics hds
  · intro file hfile hdecl n hn r hr handler hhandler hkind
    have hdefects := List.flatMap_eq_nil_iff.1 hnone file hfile
    exact Checker.handler_ok hdefects hdecl hn hr hhandler hkind

/-! Two files of the same name, of which the second has its places the wrong way round, and a
declaration file between them. -/

def firstTwin : SourceFile :=
  ⟨"a.ts", false, "NaN == x", [⟨.warning, 7, "odd", none, none⟩], none,
    [⟨.binaryExpression, 0, 8, none, some "==", none, none,
      [⟨.identifier, 0, 3, some "NaN", none, none, none, []⟩,
        ⟨.identifier, 7, 8, some "x", none, none, none, []⟩]⟩]⟩

def secondTwin : SourceFile :=
  ⟨"a.ts", false, "f()", [], none,
    [⟨.expressionStatement, 3, 0, none, none, none, none,
      [⟨.callExpression, 3, 0, none, none, some ⟨"Promise<void>", .object, [], []⟩, none,
        [⟨.identifier, 0, 1, some "f", none, none, none, []⟩]⟩]⟩]⟩

def twinProgram : Program where
  files := [firstTwin,
    ⟨"a.d.ts", false, "()", [], none, [⟨.callExpression, 0, 2, none, none, none, none, []⟩]⟩,
    secondTwin]
  globals := []

theorem runRules_merges_twins : ∃ all, runRules twinProgram Rule.all .empty = .ok all ∧
    ∃ message first second, all = message :: (first ++ second) ∧
      CheckerMessage.IsTold firstTwin ⟨.warning, 7, "odd", none, none⟩ message ∧
      IsBlock Rule.all .empty twinProgram firstTwin first ∧ first.length = 1 ∧
      IsBlock Rule.all .empty twinProgram secondTwin second ∧ second.length = 1 := by
  have hok : (runRules twinProgram Rule.all .empty).toOption.isSome = true := by decide +kernel
  obtain ⟨all, hall⟩ := Option.isSome_iff_exists.1 hok
  have hrun := eq_ok_of_toOption hall
  obtain ⟨known, blocks, hall, hknown, hblocks, -⟩ := runRules_merges _ _ _ _ hrun
  have hwalked : (twinProgram.files.filter fun file => !file.isDeclaration) =
      [firstTwin, secondTwin] := rfl
  rw [hwalked] at hblocks
  obtain ⟨first, _, hfirst, hrest, rfl⟩ := List.forall₂_cons_left_iff.1 hblocks
  obtain ⟨second, _, hsecond, ⟨⟩, rfl⟩ := List.forall₂_cons_left_iff.1 hrest
  obtain ⟨_, _, hmessages, hothers, rfl⟩ := List.forall₂_cons_left_iff.1 hknown
  obtain ⟨message, _, hmessage, ⟨⟩, rfl⟩ := List.forall₂_cons_left_iff.1 hmessages
  obtain ⟨_, _, ⟨⟩, hlast, rfl⟩ := List.forall₂_cons_left_iff.1 hothers
  obtain ⟨_, _, ⟨⟩, ⟨⟩, rfl⟩ := List.forall₂_cons_left_iff.1 hlast
  refine ⟨_, hrun, message, first, second, ?_, hmessage, hfirst, ?_, hsecond, ?_⟩
  · rw [hall]
    simp [twinProgram]
  · rw [hfirst.length_eq]
    rfl
  · rw [hsecond.length_eq]
    rfl

end Conformance
