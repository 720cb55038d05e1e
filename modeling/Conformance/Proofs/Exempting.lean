import Conformance.Proofs.Pass
/-!
# What exemptions take away

Each handler asks for the exemptions of its rule at a point of its own.  Wherever that is, the
handler does what it does without exemptions and then, in an exempt file, drops its reports
(`exemptHandlers_eq`).  From there on a run with exemptions is followed beside a run without:
through the calls, the sort and the places of a file and those of all files, the one has exactly
what the other has and the exemptions do not cover.
-/
namespace Conformance

/-! ## Handlers -/

/-- A handler whose reports are dropped in exempt files. -/
def Handler.dropping (isExempt : ProjectPath → Bool) (h : Handler) : Handler := fun site n =>
  (h site n).map fun reports => if isExempt site.file.path then [] else reports

/-- A handler drops its reports in exempt files when it finds nothing there that it would find
without exemptions, and the same elsewhere. -/
theorem Handler.eq_dropping {isExempt : ProjectPath → Bool} {h h₀ : Handler}
    (hexempt : ∀ site n, isExempt site.file.path = true → h site n = (h₀ site n).map fun _ => [])
    (hother : ∀ site n, isExempt site.file.path = false → h site n = h₀ site n) :
    h = h₀.dropping isExempt := by
  funext site n
  rw [dropping]
  cases he : isExempt site.file.path with
  | true => rw [hexempt site n he]; rfl
  | false =>
    rw [hother site n he]
    cases h₀ site n <;> rfl

def noExemption : ProjectPath → Bool := fun _ => false

theorem TrustedSink.checkValue_eq (k : TrustedKind) (isExempt : ProjectPath → Bool) (site : Site)
    (declared : Option TypeInfo) (value : Node) :
    checkValue k isExempt site declared value =
      if isExempt site.file.path then [] else checkValue k noExemption site declared value := by
  unfold checkValue noExemption
  split <;> split <;> simp_all

theorem TrustedSink.checkAssignment_eq (k : TrustedKind) (isExempt : ProjectPath → Bool) :
    checkAssignment k isExempt = (checkAssignment k noExemption).dropping isExempt := by
  refine Handler.eq_dropping (fun site n he => ?_) (fun site n he => ?_)
  · simp only [checkAssignment, checkValue_eq k isExempt, he, if_true]
    split
    · rfl
    · split
      · rfl
      · split <;> rfl
  · simp only [checkAssignment, checkValue_eq k isExempt, he, Bool.false_eq_true, if_false]

theorem TrustedSink.checkArguments_eq (k : TrustedKind) (isExempt : ProjectPath → Bool) :
    checkArguments k isExempt = (checkArguments k noExemption).dropping isExempt := by
  refine Handler.eq_dropping (fun site n he => ?_) (fun site n he => ?_)
  · have hnil : n.arguments.flatMap (checkValue k isExempt site none) = [] := by
      simp [checkValue_eq k isExempt, he]
    simp only [checkArguments, hnil]
    split <;> rfl
  · have hsame : checkValue k isExempt site none = checkValue k noExemption site none := by
      funext value
      simp [checkValue_eq k isExempt, he]
    simp only [checkArguments, hsame]

theorem TrustedSink.checkInitializer_eq (k : TrustedKind) (isExempt : ProjectPath → Bool) :
    checkInitializer k isExempt = (checkInitializer k noExemption).dropping isExempt := by
  refine Handler.eq_dropping (fun site n he => ?_) (fun site n he => ?_)
  · simp only [checkInitializer, checkValue_eq k isExempt, he, if_true]
    split
    · rfl
    · split <;> rfl
  · simp only [checkInitializer, checkValue_eq k isExempt, he, Bool.false_eq_true, if_false]

theorem NanComparison.check_eq (isExempt : ProjectPath → Bool) :
    check isExempt = (check noExemption).dropping isExempt := by
  refine Handler.eq_dropping (fun site n he => ?_) (fun site n he => ?_)
  · simp only [check, he, if_true, noExemption, Bool.false_eq_true, if_false]
    split
    · rfl
    · split
      · rfl
      · split
        · rfl
        · split <;> rfl
  · simp only [check, he, noExemption, Bool.false_eq_true, if_false]

theorem StringSet.check_eq (isExempt : ProjectPath → Bool) :
    check isExempt = (check noExemption).dropping isExempt := by
  refine Handler.eq_dropping (fun site n he => ?_) (fun site n he => ?_)
  · simp only [check, he, if_true, noExemption, Bool.false_eq_true, if_false]
    split
    · rfl
    · split
      · rfl
      · split
        · rfl
        · split <;> rfl
  · simp only [check, he, noExemption, Bool.false_eq_true, if_false]

theorem DroppedPromise.check_eq (isExempt : ProjectPath → Bool) :
    check isExempt = (check noExemption).dropping isExempt := by
  refine Handler.eq_dropping (fun site n he => ?_) (fun site n he => ?_)
  · simp only [check, he, if_true, noExemption, Bool.false_eq_true, if_false]
    split
    · rfl
    · split
      · rfl
      · split <;> rfl
  · simp only [check, he, noExemption, Bool.false_eq_true, if_false]

/-- **The exemptions of a rule drop its reports in exempt files, and do nothing else.** -/
theorem Rule.exemptHandlers_eq (r : Rule) (isExempt : ProjectPath → Bool) :
    r.exemptHandlers isExempt =
      (r.exemptHandlers noExemption).map fun h => (h.1, h.2.dropping isExempt) := by
  cases r with
  | trustedSink k =>
    simp only [exemptHandlers, TrustedSink.handlers, List.map_cons, List.map_nil,
      ← TrustedSink.checkAssignment_eq, ← TrustedSink.checkArguments_eq,
      ← TrustedSink.checkInitializer_eq]
  | equalsNan =>
    simp only [exemptHandlers, NanComparison.handlers, List.map_cons, List.map_nil,
      ← NanComparison.check_eq]
  | stringSets =>
    simp only [exemptHandlers, StringSet.handlers, List.map_cons, List.map_nil,
      ← StringSet.check_eq]
  | usePromises =>
    simp only [exemptHandlers, DroppedPromise.handlers, List.map_cons, List.map_nil,
      ← DroppedPromise.check_eq]

/-! ## Calls and walks -/

def Registration.exempted (exemptions : ExemptionList) (r : Registration) : Registration :=
  { r with handler := r.handler.dropping (exemptions.isExempt r.rule.name) }

def ExemptionList.keeps (exemptions : ExemptionList) (f : Finding) : Bool :=
  !exemptions.isExempt f.rule.name f.file

theorem isExempt_empty (rule : String) : ExemptionList.empty.isExempt rule = noExemption := rfl

theorem registrationsOf_eq (rules : List Rule) (exemptions : ExemptionList) :
    registrationsOf rules exemptions =
      (registrationsOf rules .empty).map (Registration.exempted exemptions) := by
  unfold registrationsOf
  rw [List.map_flatMap]
  congr 1
  funext r
  rw [r.exemptHandlers_eq, isExempt_empty, List.map_map, List.map_map]
  rfl

namespace Checker

theorem call_exempted (program : Program) (file : SourceFile) (exemptions : ExemptionList)
    (r : Registration) (n : Node) :
    call program file (r.exempted exemptions) n =
      (call program file r n).map (·.filter exemptions.keeps) := by
  simp only [call, Registration.exempted, Handler.dropping]
  cases r.handler ⟨program, file, r.rule⟩ n with
  | error d => rfl
  | ok reports =>
    simp only [Except.map]
    cases he : exemptions.isExempt r.rule.name file.path <;>
      simp [List.filter_map, Function.comp_def, ExemptionList.keeps, he]

theorem calls_exempted (exemptions : ExemptionList) (rs : List Registration) (ns : List Node) :
    calls (rs.map (Registration.exempted exemptions)) ns =
      (calls rs ns).map fun x => (x.1.exempted exemptions, x.2) := by
  unfold calls
  rw [List.map_flatMap]
  congr 1
  funext n
  rw [List.filter_map, List.map_map, List.map_map]
  rfl

theorem fault?_exempted (program : Program) (file : SourceFile) (exemptions : ExemptionList)
    (x : Registration × Node) :
    fault? (call program file) (x.1.exempted exemptions, x.2) =
      fault? (call program file) x := by
  simp only [fault?, call_exempted]
  cases call program file x.1 x.2 <;> rfl

theorem gain_exempted (program : Program) (file : SourceFile) (exemptions : ExemptionList)
    (x : Registration × Node) :
    gain (call program file) (x.1.exempted exemptions, x.2) =
      (gain (call program file) x).filter exemptions.keeps := by
  simp only [gain, call_exempted]
  cases call program file x.1 x.2 <;> rfl

theorem defectsIn_exempted (program : Program) (exemptions : ExemptionList)
    (rs : List Registration) (file : SourceFile) :
    defectsIn program (rs.map (Registration.exempted exemptions)) file =
      defectsIn program rs file := by
  unfold defectsIn
  rw [calls_exempted, List.filterMap_map]
  simp only [Function.comp_def, fault?_exempted]

/-- **Exemptions take from the findings of a file those they cover.** -/
theorem gainsIn_exempted (program : Program) (exemptions : ExemptionList) (rs : List Registration)
    (file : SourceFile) : gainsIn program (rs.map (Registration.exempted exemptions)) file =
      (gainsIn program rs file).filter exemptions.keeps := by
  unfold gainsIn
  split
  · rfl
  · rw [calls_exempted, List.flatMap_map, List.filter_flatMap]
    simp only [gain_exempted]

end Checker

/-! ## Diagnostics -/

/-- Do the exemptions cover a diagnostic? They do when the rule that it names has an entry for
the file that it is about. -/
def ExemptionList.suppresses (exemptions : ExemptionList) (d : Diagnostic) : Bool :=
  exemptions.entries.any fun e =>
    d.rule == some e.1 && d.location.any fun l => e.2.covers l.path

theorem suppresses_diagnosticAt (exemptions : ExemptionList) (f : Finding) (position : Text.Position)
    (message : String) : exemptions.suppresses (f.diagnosticAt position message) =
      exemptions.isExempt f.rule.name f.file := by
  simp only [ExemptionList.suppresses, Finding.diagnosticAt, ExemptionList.isExempt,
    ExemptionList.entriesFor, List.any_map, List.any_filter, Option.any_some, Function.comp_def]
  congr 1
  funext e
  rw [Option.some_beq_some, BEq.comm]

theorem suppresses_of_rule_none (exemptions : ExemptionList) {d : Diagnostic} (h : d.rule = none) :
    exemptions.suppresses d = false := by
  simp [ExemptionList.suppresses, h]

/-! ## Whose findings these are -/

def Finding.IsOf (rs : List Registration) (file : SourceFile) (f : Finding) : Prop :=
  f.file = file.path ∧ ∃ r ∈ rs, f.rule = r.rule

theorem Checker.isOf_of_call {program : Program} {file : SourceFile} {r : Registration} {n : Node}
    {found : List Finding} (h : call program file r n = .ok found) :
    ∀ f ∈ found, f.file = file.path ∧ f.rule = r.rule := by
  unfold call at h
  cases hh : r.handler ⟨program, file, r.rule⟩ n with
  | error d =>
    rw [hh] at h
    cases h
  | ok reports =>
    rw [hh] at h
    cases h
    intro f hf
    obtain ⟨report, -, rfl⟩ := List.mem_map.1 hf
    exact ⟨rfl, rfl⟩

theorem Checker.fst_mem_of_mem_calls {rs : List Registration} {ns : List Node}
    {x : Registration × Node} (h : x ∈ calls rs ns) : x.1 ∈ rs := by
  obtain ⟨n, -, hx⟩ := List.mem_flatMap.1 h
  obtain ⟨r, hr, rfl⟩ := List.mem_map.1 hx
  exact (List.mem_filter.1 hr).1

theorem Checker.isOf_of_mem_gainsIn {program : Program} {rs : List Registration}
    {file : SourceFile} {f : Finding} (h : f ∈ gainsIn program rs file) : f.IsOf rs file := by
  unfold gainsIn at h
  split at h
  · cases h
  · obtain ⟨x, hx, hf⟩ := List.mem_flatMap.1 h
    unfold gain at hf
    split at hf
    · cases hf
    · rename_i found hfound
      obtain ⟨hfile, hrule⟩ := isOf_of_call hfound f hf
      exact ⟨hfile, x.1, fst_mem_of_mem_calls hx, hrule⟩

theorem rule_mem_of_mem_registrationsOf {rules : List Rule} {exemptions : ExemptionList}
    {r : Registration} (h : r ∈ registrationsOf rules exemptions) : ∃ rule ∈ rules, r.rule = rule.id := by
  obtain ⟨rule, hrule, hr⟩ := List.mem_flatMap.1 h
  obtain ⟨handler, -, rfl⟩ := List.mem_map.1 hr
  exact ⟨rule, hrule, rfl⟩

theorem isOf_of_mem_foundIn {program : Program} {rs : List Registration} {file : SourceFile}
    {ds : List Diagnostic} (h : foundIn program rs file = .ok ds) {d : Diagnostic} (hd : d ∈ ds) :
    ∃ f position message, Finding.IsOf rs file f ∧ d = f.diagnosticAt position message := by
  obtain ⟨f, hf, hd⟩ := exists_of_mem_mapM h hd
  obtain ⟨position, message, -, -, rfl⟩ := Finding.toDiagnostic_eq_ok.1 hd
  exact ⟨f, position, message, Checker.isOf_of_mem_gainsIn (List.mem_mergeSort.1 hf), rfl⟩

theorem mem_passFound {program : Program} {rules : List Rule} {exemptions : ExemptionList}
    {found : List Diagnostic} (h : passFound program rules exemptions = .ok found) :
    ∀ d ∈ found, (∃ rule ∈ rules, d.rule = some rule.name) ∧
      ∃ file ∈ program.files, ∃ l, d.location = some l ∧ l.path = file.path := by
  obtain ⟨blocks, hblocks, rfl⟩ := passFound_eq_ok.1 h
  intro d hd
  obtain ⟨block, hblock, hd⟩ := List.mem_flatten.1 hd
  obtain ⟨file, hfile, hblock⟩ := exists_of_mem_mapM hblocks hblock
  obtain ⟨f, position, message, ⟨hpath, r, hr, hrule⟩, rfl⟩ := isOf_of_mem_foundIn hblock hd
  obtain ⟨rule, hmem, hid⟩ := rule_mem_of_mem_registrationsOf hr
  refine ⟨⟨rule, hmem, ?_⟩, file, hfile, _, rfl, hpath⟩
  rw [Finding.diagnosticAt, hrule, hid]
  rfl

/-! ## Whole runs -/

theorem passDefects_exempted (program : Program) (rules : List Rule) (exemptions : ExemptionList) :
    passDefects program rules exemptions = passDefects program rules .empty := by
  unfold passDefects
  rw [registrationsOf_eq rules exemptions]
  congr 1
  funext file
  exact Checker.defectsIn_exempted program exemptions _ file

theorem passFound_exempted {program : Program} {rules : List Rule} {found : List Diagnostic}
    (exemptions : ExemptionList) (h : passFound program rules .empty = .ok found) :
    passFound program rules exemptions =
      .ok (found.filter fun d => !exemptions.suppresses d) := by
  refine passFound_filter (fun file ds hds => foundIn_filter (p := exemptions.keeps) ?_ ?_ hds) h
  · rw [registrationsOf_eq rules exemptions]
    exact Checker.gainsIn_exempted program exemptions _ file
  · intro f position message
    rw [suppresses_diagnosticAt]
    rfl

/-- What was known before the rules names no rule, when what is said about the program does not. -/
theorem rule_none_of_mem_preEmit {program : Program} (h : ∀ d ∈ program.globals, d.rule = none)
    {known : List Diagnostic} (hknown : program.preEmit = .ok known) {d : Diagnostic}
    (hd : d ∈ known) : d.rule = none := by
  rcases Program.exists_of_mem_preEmit hknown hd with hd | ⟨file, -, m, -, htold⟩
  · exact h d hd
  · exact htold.rule

theorem filter_preEmit {program : Program} (h : ∀ d ∈ program.globals, d.rule = none)
    {known : List Diagnostic} (hknown : program.preEmit = .ok known) {q : Diagnostic → Bool}
    (hq : ∀ d, d.rule = none → q d = true) : known.filter q = known :=
  List.filter_eq_self.2 fun d hd => hq d (rule_none_of_mem_preEmit h hknown hd)

/-- **Exemptions take away what they name and nothing else.** When a run without exemptions has a
result, a run with exemptions has one: the diagnostics from before the rules as they were, and
what the rules found without those that the exemptions cover, in the same order. -/
theorem runRules_exempting (program : Program) (rules : List Rule) (exemptions : ExemptionList)
    (all : List Diagnostic) (h : runRules program rules .empty = .ok all) :
    ∃ known found, program.preEmit = .ok known ∧ all = known ++ found ∧
      (∀ d ∈ found, (∃ rule ∈ rules, d.rule = some rule.name) ∧
        ∃ file ∈ program.files, ∃ l, d.location = some l ∧ l.path = file.path) ∧
      runRules program rules exemptions =
        .ok (known ++ found.filter fun d => !exemptions.suppresses d) ∧
      ((∀ d ∈ program.globals, d.rule = none) →
        runRules program rules exemptions = .ok (all.filter fun d => !exemptions.suppresses d)) := by
  have hrules := nodup_of_runRules h
  obtain ⟨hnone, known, found, hknown, hfound, rfl⟩ := (runRules_eq_ok hrules).1 h
  have hrun : runRules program rules exemptions =
      .ok (known ++ found.filter fun d => !exemptions.suppresses d) := by
    refine (runRules_eq_ok hrules).2 ⟨?_, known, _, hknown, passFound_exempted exemptions hfound, rfl⟩
    rw [passDefects_exempted]
    exact hnone
  refine ⟨known, found, hknown, rfl, mem_passFound hfound, hrun, fun hglobals => ?_⟩
  rw [hrun, List.filter_append, filter_preEmit hglobals hknown fun d hd => by
    rw [suppresses_of_rule_none exemptions hd, Bool.not_false]]

/-! A program of two comparisons with NaN, of which one is in an exempt directory. -/

def nanFile (name : String) : SourceFile :=
  ⟨name, false, "x === NaN", [], none,
    [⟨.binaryExpression, 0, 9, none, some "===", none, none,
      [⟨.identifier, 0, 1, some "x", none, none, none, []⟩,
        ⟨.identifier, 6, 9, some "NaN", none, none, none, []⟩]⟩]⟩

def nanFinding (name : String) : Finding :=
  ⟨Rule.equalsNan.id, (nanFile name).path, .error,
    ⟨0, 9, "x === NaN is always false; use isNaN(x) instead.", [Fix.replace 0 9 "isNaN(x)"]⟩⟩

def nanProgram : Program := ⟨[nanFile "src/legacy/a.ts", nanFile "src/b.ts"], []⟩

def legacyExemption : ExemptionList := ⟨[("equals-nan", ⟨none, [], ["src/legacy".toList], []⟩)]⟩

def nanMessage : String :=
  "x === NaN is always false; use isNaN(x) instead.\nSuggested fix:\n" ++
    "- Replace the full text from (line 1, col 1) to (line 1, col 10) with: isNaN(x)"

theorem toDiagnostic_nanFinding (name : String) : (nanFinding name).toDiagnostic (nanFile name) =
    .ok ((nanFinding name).diagnosticAt ⟨1, 1⟩ nanMessage) := by
  -- neither depends on the name
  have hstart : (nanFile "").position 0 = .ok ⟨1, 1⟩ := by decide +kernel
  have hmessage : (nanFinding "").fullMessage (nanFile "") = .ok nanMessage := by decide +kernel
  exact Finding.toDiagnostic_eq_ok.2 ⟨_, _, hstart, hmessage, rfl⟩

theorem runRules_exempting_legacy :
    runRules nanProgram [.equalsNan] .empty =
      .ok [(nanFinding "src/legacy/a.ts").diagnosticAt ⟨1, 1⟩ nanMessage,
        (nanFinding "src/b.ts").diagnosticAt ⟨1, 1⟩ nanMessage] ∧
    runRules nanProgram [.equalsNan] legacyExemption =
      .ok [(nanFinding "src/b.ts").diagnosticAt ⟨1, 1⟩ nanMessage] := by
  have hgains : ∀ file ∈ nanProgram.files,
      Checker.gainsIn nanProgram (registrationsOf [.equalsNan] .empty) file =
        [nanFinding file.fileName] := by
    decide +kernel
  have hfound : ∀ name, nanFile name ∈ nanProgram.files →
      foundIn nanProgram (registrationsOf [.equalsNan] .empty) (nanFile name) =
        .ok [(nanFinding name).diagnosticAt ⟨1, 1⟩ nanMessage] := by
    intro name hname
    rw [foundIn, hgains _ hname, show (nanFile name).fileName = name from rfl,
      List.mergeSort_singleton, List.mapM_cons, toDiagnostic_nanFinding]
    rfl
  have h : runRules nanProgram [.equalsNan] .empty =
      .ok [(nanFinding "src/legacy/a.ts").diagnosticAt ⟨1, 1⟩ nanMessage,
        (nanFinding "src/b.ts").diagnosticAt ⟨1, 1⟩ nanMessage] := by
    refine (runRules_eq_ok (by decide)).2 ⟨by decide +kernel, [], _, by rfl, passFound_eq_ok.2
      ⟨[[_], [_]], mapM_eq_ok.2 (.cons (hfound _ ?_) (.cons (hfound _ ?_) .nil)), rfl⟩, rfl⟩ <;>
      simp [nanProgram]
  obtain ⟨-, -, -, -, -, -, hfilter⟩ :=
    runRules_exempting nanProgram [.equalsNan] legacyExemption _ h
  refine ⟨h, (hfilter fun d hd => by cases hd).trans ?_⟩
  have hlegacy : legacyExemption.isExempt "equals-nan" (nanFile "src/legacy/a.ts").path = true := by
    decide +kernel
  have hb : legacyExemption.isExempt "equals-nan" (nanFile "src/b.ts").path = false := by
    decide +kernel
  simp [suppresses_diagnosticAt, nanFinding, Rule.id, hlegacy, hb]

end Conformance
