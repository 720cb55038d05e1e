import Conformance.Pass
import Conformance.Proofs.Walk
/-!
# What a pass comes to

A pass is a run of calls, and the first one that fails ends it.  So the walks of a pass are settled
by two lists that are read off the calls one by one: the defects they meet and what they find.
What is found is then placed, and a place that has outgrown a word ends the pass as a defect does.
The first fault is the result (`faultOf_runRules`); when there is none, everything that was found
is, file by file and sorted within each (`runRules_eq_ok`).
-/
namespace Conformance

namespace Checker

/-! ## Calls -/

section

variable (call : Registration → Node → Except Defect (List Finding))

def fault? (x : Registration × Node) : Option Defect :=
  match call x.1 x.2 with
  | .error d => some d
  | .ok _ => none

/-- What a call finds; nothing if it fails. -/
def gain (x : Registration × Node) : List Finding :=
  match call x.1 x.2 with
  | .error _ => []
  | .ok found => found

/-- **Calls come to their first defect, or to all they find.** -/
theorem foldlM_addCall_eq : ∀ (xs : List (Registration × Node)) (found : List Finding),
    xs.foldlM (addCall call) found =
      orFirst (xs.filterMap (fault? call)) (.ok (found ++ xs.flatMap (gain call)))
  | [], found => by simp [orFirst, pure, Except.pure]
  | x :: xs, found => by
    rw [List.foldlM_cons, addCall]
    cases hx : call x.1 x.2 with
    | error d =>
      have hfault : fault? call x = some d := by simp [fault?, hx]
      rw [List.filterMap_cons_some hfault]
      rfl
    | ok more =>
      have hfault : fault? call x = none := by simp [fault?, hx]
      have hgain : gain call x = more := by simp [gain, hx]
      rw [List.filterMap_cons_none hfault, List.flatMap_cons, hgain, ← List.append_assoc]
      exact foldlM_addCall_eq xs (found ++ more)

end

/-! ## Files -/

/-- The defects that the calls for a file meet, were none of them to end the walk. -/
def defectsIn (program : Program) (rs : List Registration) (file : SourceFile) : List Defect :=
  if file.isDeclaration then []
  else (calls rs file.statements).filterMap (fault? (call program file))

def gainsIn (program : Program) (rs : List Registration) (file : SourceFile) : List Finding :=
  if file.isDeclaration then []
  else (calls rs file.statements).flatMap (gain (call program file))

theorem findings_eq (program : Program) (rs : List Registration) (file : SourceFile) :
    (ofRegistrations program rs).findings file =
      orFirst (defectsIn program rs file)
        (.ok ((gainsIn program rs file).mergeSort findingLe)) := by
  rw [findings, walk_eq, ofRegistrations_program, defectsIn, gainsIn]
  split
  · simp [orFirst, pure, Except.pure]
  · rw [foldlM_addCall_eq, List.nil_append]
    cases (calls rs file.statements).filterMap (fault? (call program file)) <;> rfl

theorem gainsIn_eq_nil {program : Program} {rs : List Registration} {file : SourceFile} :
    gainsIn program rs file = [] ↔ file.isDeclaration = false →
      ∀ n ∈ Node.preorderOf file.statements, ∀ r ∈ rs, r.kind = n.kind →
        gain (call program file) (r, n) = [] := by
  unfold gainsIn
  cases file.isDeclaration with
  | true => simp
  | false =>
    simp only [Bool.false_eq_true, if_false, List.flatMap_eq_nil_iff, true_implies]
    constructor
    · intro h n hn r hr hkind
      exact h (r, n) (List.mem_flatMap.2 ⟨n, hn, List.mem_map.2
        ⟨r, List.mem_filter.2 ⟨hr, by simp [hkind]⟩, rfl⟩⟩)
    · rintro h x hx
      obtain ⟨n, hn, hx⟩ := List.mem_flatMap.1 hx
      obtain ⟨r, hr, rfl⟩ := List.mem_map.1 hx
      obtain ⟨hr, hkind⟩ := List.mem_filter.1 hr
      exact h n hn r hr (by simpa using hkind)

end Checker

/-! ## What is known before -/

structure CheckerMessage.IsTold (file : SourceFile) (m : CheckerMessage) (d : Diagnostic) : Prop where
  severity : d.severity = m.severity
  code : d.code = m.code
  message : d.message = m.message
  rule : d.rule = none
  start : d.location.map (·.start) = m.start
  path : ∀ l, d.location = some l → l.path = file.path

theorem CheckerMessage.isTold {file : SourceFile} {lines : Text.LineMap} {m : CheckerMessage}
    {d : Diagnostic} (h : file.diagnosticOf lines m = .ok d) : m.IsTold file d := by
  obtain ⟨location, hlocation, h⟩ := bind_eq_ok.1 h
  cases h
  cases hstart : m.start with
  | none =>
    rw [hstart] at hlocation
    cases hlocation
    exact ⟨rfl, rfl, rfl, rfl, hstart.symm, fun l hl => by cases hl⟩
  | some start =>
    rw [hstart] at hlocation
    obtain ⟨l, hl, h⟩ := bind_eq_ok.1 hlocation
    obtain ⟨position, -, hl⟩ := bind_eq_ok.1 hl
    cases hl
    cases h
    exact ⟨rfl, rfl, rfl, rfl, hstart.symm, fun l hl => by cases hl; rfl⟩

theorem SourceFile.isTold_of_compilerDiagnostics {file : SourceFile} {ds : List Diagnostic}
    (h : file.compilerDiagnostics = .ok ds) :
    List.Forall₂ (CheckerMessage.IsTold file) file.messages ds := by
  obtain ⟨lines, -, h⟩ := bind_eq_ok.1 h
  exact (mapM_eq_ok.1 h).imp fun m d hd => CheckerMessage.isTold hd

theorem Program.preEmit_eq_ok {program : Program} {known : List Diagnostic} :
    program.preEmit = .ok known ↔ ∃ told : List (List Diagnostic),
      List.Forall₂ (fun file ds => file.compilerDiagnostics = .ok ds) program.files told ∧
        program.globals ++ told.flatten = known := by
  rw [preEmit, bind_eq_ok]
  refine exists_congr fun told => ?_
  rw [mapM_eq_ok]
  exact and_congr_right fun _ => ⟨Except.ok.inj, congrArg Except.ok⟩

theorem Program.exists_of_mem_preEmit {program : Program} {known : List Diagnostic}
    (h : program.preEmit = .ok known) {d : Diagnostic} (hd : d ∈ known) :
    d ∈ program.globals ∨ ∃ file ∈ program.files, ∃ m ∈ file.messages, m.IsTold file d := by
  obtain ⟨told, htold, rfl⟩ := preEmit_eq_ok.1 h
  rcases List.mem_append.1 hd with hd | hd
  · exact .inl hd
  · obtain ⟨ds, hds, hd⟩ := List.mem_flatten.1 hd
    obtain ⟨file, hfile, hds⟩ := exists_of_mem_mapM (mapM_eq_ok.2 htold) hds
    obtain ⟨lines, -, hds⟩ := bind_eq_ok.1 hds
    obtain ⟨m, hm, hd⟩ := exists_of_mem_mapM hds hd
    exact .inr ⟨file, hfile, m, hm, CheckerMessage.isTold hd⟩

theorem Program.preEmit_eq_nil {program : Program} {known : List Diagnostic}
    (h : program.preEmit = .ok known) : known = [] ↔
      program.globals = [] ∧ ∀ file ∈ program.files, file.messages = [] := by
  obtain ⟨told, htold, rfl⟩ := preEmit_eq_ok.1 h
  rw [List.append_eq_nil_iff, List.flatten_eq_nil_iff]
  refine and_congr_right fun _ => forall_mem_iff_of_forall₂ (htold.imp fun file ds hds => ?_)
  rw [← List.length_eq_zero_iff, ← List.length_eq_zero_iff,
    (SourceFile.isTold_of_compilerDiagnostics hds).length_eq]

/-! ## Places -/

theorem Finding.toDiagnostic_eq_ok {file : SourceFile} {f : Finding} {d : Diagnostic} :
    f.toDiagnostic file = .ok d ↔ ∃ position message, file.position f.report.start = .ok position ∧
      f.fullMessage file = .ok message ∧ d = f.diagnosticAt position message := by
  rw [toDiagnostic, bind_eq_ok]
  refine exists_congr fun position => ?_
  rw [bind_eq_ok, exists_and_left]
  refine and_congr_right fun _ => exists_congr fun message => and_congr_right fun _ => ?_
  rw [eq_comm]
  exact ⟨Except.ok.inj, congrArg Except.ok⟩

def foundIn (program : Program) (rs : List Registration) (file : SourceFile) :
    Except Text.Overflow (List Diagnostic) :=
  ((Checker.gainsIn program rs file).mergeSort Checker.findingLe).mapM (Finding.toDiagnostic file)

/-- **Findings may be left out before or after they get their places**, by what they still show
there. -/
theorem foundIn_filter {program : Program} {rs rs' : List Registration} {file : SourceFile}
    {p : Finding → Bool} {q : Diagnostic → Bool}
    (hgains : Checker.gainsIn program rs' file = (Checker.gainsIn program rs file).filter p)
    (hpq : ∀ f position message, q (f.diagnosticAt position message) = p f) {ds : List Diagnostic}
    (h : foundIn program rs file = .ok ds) : foundIn program rs' file = .ok (ds.filter q) := by
  rw [foundIn, hgains, mergeSort_filter Checker.findingLe_trans Checker.findingLe_total]
  refine mapM_filter_of_ok h fun f _ d hd => ?_
  obtain ⟨position, message, -, -, rfl⟩ := Finding.toDiagnostic_eq_ok.1 hd
  exact hpq f position message

theorem fileDiagnostics_eq (program : Program) (rs : List Registration) (file : SourceFile) :
    fileDiagnostics (.ofRegistrations program rs) file =
      orFirst ((Checker.defectsIn program rs file).map .defect)
        ((foundIn program rs file).mapError .overflow) := by
  rw [fileDiagnostics, Checker.findings_eq]
  cases Checker.defectsIn program rs file <;> rfl

/-! ## Whole passes -/

theorem firstRepeated?_eq_none : ∀ {rules seen : List Rule},
    firstRepeated? seen rules = none ↔ rules.Nodup ∧ ∀ r ∈ rules, r ∉ seen
  | [], _ => by simp [firstRepeated?]
  | r :: rules, seen => by
    rw [firstRepeated?]
    split
    · rename_i hr
      simp [hr]
    · rename_i hr
      rw [firstRepeated?_eq_none, List.nodup_cons]
      constructor
      · rintro ⟨hnodup, hseen⟩
        refine ⟨⟨fun hmem => hseen r hmem List.mem_cons_self, hnodup⟩, fun r' hr' => ?_⟩
        rcases List.mem_cons.1 hr' with rfl | hr'
        · exact hr
        · exact fun hmem => hseen r' hr' (List.mem_cons_of_mem r hmem)
      · rintro ⟨⟨hfresh, hnodup⟩, hseen⟩
        refine ⟨hnodup, fun r' hr' hmem => ?_⟩
        rcases List.mem_cons.1 hmem with rfl | hmem
        · exact hfresh hr'
        · exact hseen r' (List.mem_cons_of_mem r hr') hmem

def passDefects (program : Program) (rules : List Rule) (exemptions : ExemptionList) :
    List Defect :=
  program.files.flatMap (Checker.defectsIn program (registrationsOf rules exemptions))

def passFound (program : Program) (rules : List Rule) (exemptions : ExemptionList) :
    Except Text.Overflow (List Diagnostic) :=
  (program.files.mapM (foundIn program (registrationsOf rules exemptions))).map List.flatten

theorem passFound_eq_ok {program : Program} {rules : List Rule} {exemptions : ExemptionList}
    {found : List Diagnostic} : passFound program rules exemptions = .ok found ↔ ∃ blocks,
      program.files.mapM (foundIn program (registrationsOf rules exemptions)) = .ok blocks ∧
        blocks.flatten = found := by
  rw [passFound]
  cases program.files.mapM (foundIn program (registrationsOf rules exemptions)) <;>
    simp [Except.map]

theorem passFound_filter {program : Program} {rules rules' : List Rule}
    {exemptions exemptions' : ExemptionList} {q : Diagnostic → Bool}
    (hfile : ∀ file ds, foundIn program (registrationsOf rules exemptions) file = .ok ds →
      foundIn program (registrationsOf rules' exemptions') file = .ok (ds.filter q))
    {found : List Diagnostic} (h : passFound program rules exemptions = .ok found) :
    passFound program rules' exemptions' = .ok (found.filter q) := by
  obtain ⟨blocks, hblocks, rfl⟩ := passFound_eq_ok.1 h
  have hkept := mapM_of_mapM hblocks fun file _ ds hds => hfile file ds hds
  exact passFound_eq_ok.2 ⟨_, hkept, List.filter_flatten.symm⟩

/-- What may end a pass of some rules, in order: a message of the type checker without a place, and
then file by file a defect, or a finding without a place. -/
def passFaults (program : Program) (rules : List Rule) (exemptions : ExemptionList) :
    List PassError :=
  (faultOf program.preEmit).toList.map .overflow ++ program.files.flatMap fun file =>
    (Checker.defectsIn program (registrationsOf rules exemptions) file).map .defect ++
      (faultOf (foundIn program (registrationsOf rules exemptions) file)).toList.map .overflow

theorem runRules_eq {rules : List Rule} (h : rules.Nodup) (program : Program)
    (exemptions : ExemptionList) : runRules program rules exemptions = do
      let known ← program.preEmit.mapError .overflow
      let found ← program.files.mapM (fileDiagnostics (checkerOf program rules exemptions))
      return known ++ found.flatten := by
  have hfresh : firstRepeated? [] rules = none :=
    firstRepeated?_eq_none.2 ⟨h, fun _ _ => List.not_mem_nil⟩
  rw [runRules, hfresh]

theorem nodup_of_runRules {program : Program} {rules : List Rule} {exemptions : ExemptionList}
    {all : List Diagnostic} (h : runRules program rules exemptions = .ok all) : rules.Nodup := by
  unfold runRules at h
  split at h
  · cases h
  · rename_i hfresh
    exact (firstRepeated?_eq_none.1 hfresh).1

theorem runRules_eq_ok {rules : List Rule} (h : rules.Nodup) {program : Program}
    {exemptions : ExemptionList} {all : List Diagnostic} :
    runRules program rules exemptions = .ok all ↔ passDefects program rules exemptions = [] ∧
      ∃ known found, program.preEmit = .ok known ∧
        passFound program rules exemptions = .ok found ∧ known ++ found = all := by
  have hfiles : ∀ blocks : List (List Diagnostic),
      program.files.mapM (fileDiagnostics (checkerOf program rules exemptions)) = .ok blocks ↔
        passDefects program rules exemptions = [] ∧
          program.files.mapM (foundIn program (registrationsOf rules exemptions)) = .ok blocks := by
    intro blocks
    rw [mapM_eq_ok, mapM_eq_ok, passDefects, List.flatMap_eq_nil_iff, ← List.forall₂_and_left]
    simp only [checkerOf, fileDiagnostics_eq, orFirst_eq_ok, mapError_eq_ok, List.map_eq_nil_iff]
  rw [runRules_eq h]
  simp only [bind_eq_ok, mapError_eq_ok, hfiles, passFound_eq_ok]
  constructor
  · rintro ⟨known, hknown, blocks, ⟨hnone, hblocks⟩, hall⟩
    exact ⟨hnone, known, _, hknown, ⟨blocks, hblocks, rfl⟩, Except.ok.inj hall⟩
  · rintro ⟨hnone, known, _, hknown, ⟨blocks, hblocks, rfl⟩, rfl⟩
    exact ⟨known, hknown, blocks, ⟨hnone, hblocks⟩, rfl⟩

/-- **A pass of distinct rules ends in the first fault that it meets.** -/
theorem faultOf_runRules {rules : List Rule} (h : rules.Nodup) (program : Program)
    (exemptions : ExemptionList) :
    faultOf (runRules program rules exemptions) = (passFaults program rules exemptions).head? := by
  have hfile : ∀ file, faultOf (fileDiagnostics (checkerOf program rules exemptions) file) =
      ((Checker.defectsIn program (registrationsOf rules exemptions) file).map PassError.defect ++
        (faultOf (foundIn program (registrationsOf rules exemptions) file)).toList.map
          PassError.overflow).head? := by
    intro file
    rw [checkerOf, fileDiagnostics_eq, faultOf_orFirst, faultOf_mapError, Option.toList_map]
  have hfiles := faultOf_mapM (fileDiagnostics (checkerOf program rules exemptions)) program.files
  simp only [hfile, List.head?_filterMap] at hfiles
  rw [runRules_eq h, passFaults, List.head?_append, List.head?_flatMap, ← hfiles]
  cases program.preEmit with
  | error e => rfl
  | ok known =>
    show faultOf (_ >>= fun found : List (List Diagnostic) => Except.ok (known ++ found.flatten)) = _
    cases program.files.mapM (fileDiagnostics (checkerOf program rules exemptions)) <;> rfl

theorem runRules_ne_duplicateRule {rules : List Rule} (h : rules.Nodup) (program : Program)
    (exemptions : ExemptionList) (name : String) :
    runRules program rules exemptions ≠ .error (.duplicateRule name) := by
  intro hrun
  have hfault := faultOf_runRules h program exemptions
  rw [hrun] at hfault
  have hmem := List.mem_of_head? hfault.symm
  simp [passFaults] at hmem

end Conformance
