import Conformance.Proofs.Path.Joining
import Conformance.Proofs.Project.Keeping
import Conformance.Proofs.Solution.Turn
/-!
# Where outputs go

The name of an output is joined to the output directory as a document spelled it.  A relative name
that nowhere goes up out of where it starts leads to something within the directory, whatever
directory it is and whatever is left out of the name (`emit_within`).  Nothing else is looked at: an
absolute name leads where it says, and double dots may lead out (`not_isWithin_strays`).
-/
namespace Conformance.Project

/-- The name of the output of a file, as it is joined to the output directory. -/
def nameOfOutput (p : Project) (f : SourceFile) : Path :=
  ⟨outputName (withoutRootDir p.rootDir f.path)⟩

theorem outputPath_eq_some {p : Project} {f : SourceFile} {w : Path} :
    p.outputPath f = some w ↔ f.isDeclaration = false ∧ w = p.outDir.join (p.nameOfOutput f) := by
  unfold outputPath nameOfOutput
  cases f.isDeclaration <;> simp [eq_comm]

/-- **Emitting stays within the output directory as far as the names of the outputs stay inside.**
An output with an absolute name goes where the name says. -/
theorem emit_within (d : Disk) (p : Project) (program : Program) (forbidden : Bool) :
    ∀ w ∈ (p.emit d program forbidden).1.written,
      (∃ f ∈ program.files, p.outputPath f = some w) ∧
      ∀ f, p.outputPath f = some w →
        ((p.nameOfOutput f).IsInner → w.IsWithin p.outDir) ∧
        ((p.nameOfOutput f).isAbsolute = true → w = p.nameOfOutput f) := by
  intro w hw
  unfold emit at hw
  split at hw
  · cases hw
  · obtain ⟨hfile, place, bytes, hres⟩ := Turn.resolve_emitFiles p program.files d w hw
    refine ⟨hfile, fun f hf => ?_⟩
    obtain ⟨-, rfl⟩ := outputPath_eq_some.1 hf
    refine ⟨fun hinner => ?_, fun habsolute => Path.join_of_isAbsolute p.outDir habsolute⟩
    obtain ⟨front, last, hpieces, hname⟩ := Disk.exists_name_of_file hres
    exact Path.isWithin_join p.outDir hinner hpieces hname

def tidyProject : Project :=
  { rootProject with outDir := .ofString "lib/./js", rootDir := some (.ofString "src") }

def locals : Program := ⟨[sourceFile "src/a.ts" "a", sourceFile "more/../b.tsx" "b"], []⟩

theorem emit_within_locals :
    (tidyProject.emit .empty locals false).1.written =
      [.ofString "lib/./js/a.js", .ofString "lib/./js/more/../b.js"] ∧
    ∀ w ∈ (tidyProject.emit .empty locals false).1.written, w.IsWithin tidyProject.outDir := by
  refine ⟨by decide, fun w hw => ?_⟩
  obtain ⟨⟨f, hf, hpath⟩, hgoes⟩ := emit_within .empty tidyProject locals false w hw
  have hinner : ∀ f ∈ locals.files, (tidyProject.nameOfOutput f).IsInner := by decide
  exact (hgoes f hpath).1 (hinner f hf)

/-- Two sources whose outputs have names that lead elsewhere. -/
def strays : Program := ⟨[sourceFile "/away/a.ts" "a", sourceFile "../../b.ts" "b"], []⟩

/-- **An output may be written outside of the output directory**: one with an absolute name, and one
with a name that goes up. -/
theorem not_isWithin_strays :
    (tidyProject.emit .empty strays false).1.written =
      [.ofString "/away/a.js", .ofString "lib/./js/../../b.js"] ∧
    ∀ w ∈ (tidyProject.emit .empty strays false).1.written, ¬w.IsWithin tidyProject.outDir := by
  refine ⟨by decide, ?_⟩
  have houtside : ∀ w ∈ (tidyProject.emit .empty strays false).1.written,
      ¬tidyProject.outDir.normalize.components <+: w.normalize.components := by decide
  exact fun w hw hwithin => houtside w hw hwithin.isPrefix

end Conformance.Project
