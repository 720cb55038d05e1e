import Conformance.Project.Load
import Conformance.Proofs.Exemption.Loading
/-!
# What loading leaves behind

Nothing that goes wrong while a project is loaded stops it, so whatever goes wrong has to leave a
diagnostic.  A root file is in the program or in its diagnostics (`loadProgram_eq`), and the rules
of an exemption file are in its list or in its diagnostics, so there are no diagnostics exactly when
everything could be read.
-/
namespace Conformance

/-! ## Root files -/

/-- A path leads to a file that reads as a tree. -/
def Disk.Reads (d : Disk) (root : Path) (file : SourceFile) : Prop :=
  ∃ text, d.readText root = .ok text ∧ SourceFile.parse text = .ok file

namespace Project

theorem loadFile_eq_ok {d : Disk} (dir : Path) {root : Path} {file : SourceFile} :
    loadFile d dir root = .ok file ↔ d.Reads root file := by
  unfold loadFile Disk.Reads
  cases htext : d.readText root with
  | error e => simp
  | ok text =>
    dsimp only
    cases hfile : SourceFile.parse text with
    | error f => simp [hfile]
    | ok file' => simp [hfile]

def loadFailure? (d : Disk) (dir root : Path) : Option Diagnostic :=
  match loadFile d dir root with
  | .ok _ => none
  | .error diagnostic => some diagnostic

theorem loadFailure?_eq_none {d : Disk} {dir root : Path} :
    loadFailure? d dir root = none ↔ ∃ file, d.Reads root file := by
  simp only [← loadFile_eq_ok dir, loadFailure?]
  cases loadFile d dir root <;> simp

theorem foldl_addFile (d : Disk) (dir : Path) : ∀ (roots : List Path) (program : Program),
    roots.foldl (fun program root => addFile program (loadFile d dir root)) program =
      { files := program.files ++ roots.filterMap fun root => (loadFile d dir root).toOption
        globals := program.globals ++ roots.filterMap (loadFailure? d dir) }
  | [], program => by simp
  | root :: roots, program => by
    rw [List.foldl_cons, foldl_addFile d dir roots, List.filterMap_cons, List.filterMap_cons,
      loadFailure?]
    cases loadFile d dir root <;> simp [addFile, Except.toOption]

/-- **A root file is in the program, or what is wrong with it is.** -/
theorem loadProgram_eq (d : Disk) (dir : Path) (roots : List Path) :
    loadProgram d dir roots =
      { files := roots.filterMap fun root => (loadFile d dir root).toOption
        globals := roots.filterMap (loadFailure? d dir) } := by
  rw [loadProgram, foldl_addFile]
  rfl

theorem mem_files_loadProgram {d : Disk} {dir : Path} {roots : List Path} {file : SourceFile} :
    file ∈ (loadProgram d dir roots).files ↔ ∃ root ∈ roots, d.Reads root file := by
  rw [loadProgram_eq, List.mem_filterMap]
  simp only [← loadFile_eq_ok dir]
  refine exists_congr fun root => and_congr_right fun _ => ?_
  cases loadFile d dir root <;> simp [Except.toOption]

theorem globals_loadProgram_eq_nil {d : Disk} {dir : Path} {roots : List Path} :
    (loadProgram d dir roots).globals = [] ↔ ∀ root ∈ roots, ∃ file, d.Reads root file := by
  rw [loadProgram_eq, List.filterMap_eq_nil_iff]
  simp only [loadFailure?_eq_none]

end Project

/-! ## Exemption files -/

namespace ExemptionFile

/-- The text of an exemption file is in order: it is an object, and the value of every rule has its
form and holds. -/
def IsSound (text : String) : Prop :=
  ∃ members, Json.readDocument Json.readMembers text.toList = .ok members ∧
    ∀ m ∈ members, ∃ entries, ruleEntries m.1 m.2 = .ok entries

theorem fault?_eq_none {file : ProjectPath} {text : List Char} {m : String × Json} :
    fault? file text m = none ↔ ∃ entries, ruleEntries m.1 m.2 = .ok entries := by
  unfold fault?
  cases ruleEntries m.1 m.2 <;> simp

theorem parse_diagnostics_eq_nil {file : ProjectPath} {text : String} :
    (parse file text).diagnostics = [] ↔ IsSound text := by
  unfold IsSound
  cases hread : Json.readDocument Json.readMembers text.toList with
  | error f => simp [parse, hread]
  | ok members =>
    rw [parse_eq hread]
    simp [faults, hread, byName, fault?_eq_none]

end ExemptionFile

theorem Project.exemptions_diagnostics_eq_nil {d : Disk} {p : Project} :
    (p.exemptions d).diagnostics = [] ↔ ∀ path, p.exemptionConfig = some path →
      ∃ text, d.readText path = .ok text ∧ ExemptionFile.IsSound text := by
  unfold Project.exemptions
  cases p.exemptionConfig with
  | none => simp
  | some path =>
    dsimp only
    cases htext : d.readText path with
    | error e => simp [htext]
    | ok text => simp [htext, ExemptionFile.parse_diagnostics_eq_nil]

end Conformance
