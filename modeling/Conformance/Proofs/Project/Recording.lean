import Conformance.Proofs.Path.Resolving
import Conformance.Proofs.Project.Excluding
import Conformance.Proofs.Project.Keeping
import Conformance.Proofs.Solution.Turn
/-!
# Outputs found again by a record

The record of a build keeps its outputs as seen from the directory of the project, and they are looked
for from there.  What is kept behind the directory takes the steps that the output takes behind it,
and an output elsewhere is kept as a whole, so either way the path that is looked for is that of the
output, with dots resolved, wherever the project puts its outputs (`outputPaths_written`).  A record
writes slashes for backslashes, though, and so a name with a backslash is lost
(`not_outputPaths_slanted`).
-/
namespace Conformance

open Text (splitOn joinWith)

namespace Path

/-! ## Seen from a directory and joined to it -/

theorem stepsOf_pieces_strip? {dir p q : Path} (hdir : dir.chars ≠ []) (h : p.strip? dir = some q) :
    p.lead = dir.lead ∧ q.isAbsolute = false ∧
      stepsOf p.pieces = stepsOf dir.pieces ++ stepsOf q.pieces := by
  unfold strip? at h
  rw [if_neg (mt (components_eq_nil_iff dir).1 hdir)] at h
  split at h
  · rename_i hlead
    obtain ⟨rest, hrest, rfl⟩ := Option.map_eq_some_iff.1 h
    have htrims : Trims rest (dropIdleEnd (rest.dropWhile isIdle)) :=
      (trims_dropWhile rest).trans (trims_dropIdleEnd _)
    have hsub := htrims.sublist.trans (dropSteps_suffix hrest).sublist
    obtain ⟨hrelative, hsteps⟩ := stepsOf_pieces_joinWith exists_busy_of_dropWhile
      fun piece hpiece => slash_not_mem_pieces (hsub.subset hpiece)
    exact ⟨hlead, hrelative, by rw [stepsOf_of_dropSteps hrest, hsteps, htrims.stepsOf_eq]⟩
  · cases h

/-- **A path that is seen from a directory is the same path from there**, with dots resolved; so is
one that is absolute and lies elsewhere. -/
theorem normalize_join_strip? {dir p : Path} (hdir : dir.chars ≠ [])
    (h : p.isAbsolute = true ∨ (p.strip? dir).isSome = true) :
    (dir.join ((p.strip? dir).getD p)).normalize = p.normalize := by
  cases hstrip : p.strip? dir with
  | none =>
    rw [hstrip] at h
    rw [Option.getD_none, join_of_isAbsolute dir (h.resolve_right (by simp))]
  | some q =>
    obtain ⟨hlead, hrelative, hsteps⟩ := stepsOf_pieces_strip? hdir hstrip
    rw [Option.getD_some]
    refine normalize_congr ?_ ?_
    · rw [isAbsolute_join_eq dir hrelative, isAbsolute, isAbsolute, hlead]
    · rw [stepsOf_pieces_join dir hrelative, hsteps]

/-! ## Leads of joined paths -/

theorem chars_ne_nil_of_lead {p : Path} (h : p.lead ≠ .bare) : p.chars ≠ [] := by
  intro hnil
  rw [lead, leadAndPieces, hnil] at h
  exact h rfl

theorem lead_join {p : Path} (h : p.lead ≠ .bare) (q : Path) :
    (p.join q).lead = .root ∨ (p.join q).lead = p.lead := by
  by_cases hq : q.isAbsolute = true
  · rw [join_of_isAbsolute p hq]
    exact .inl (lead_eq_root hq)
  · exact .inr (pieces_join (chars_ne_nil_of_lead h) (by simpa using hq)).1

theorem isSome_strip?_dot {p : Path} (h : p.lead = .dot) :
    (p.strip? (.ofString ".")).isSome = true := by
  have hdot : (ofString ".").lead = .dot := rfl
  have hnone : stepsOf (ofString ".").pieces = [] := rfl
  rw [strip?, if_neg (by decide), hdot, if_pos h, hnone, dropSteps_nil]
  rfl

end Path

namespace Project

/-! ## Where a settled project puts its outputs -/

variable {c : ConfigFile} {key : Path} {p : Project}

theorem dirOf_of_isAbsolute (h : key.isAbsolute = true) :
    (dirOf key).lead = .root ∨ dirOf key = .ofString "." := by
  unfold dirOf
  cases hparent : key.parent with
  | none => exact .inr rfl
  | some dir => exact .inl (Path.lead_eq_root (Path.isAbsolute_parent h hparent))

theorem isAbsolute_or_isSome_strip? (h : ofConfig c key = .ok p) (hkey : key.isAbsolute = true)
    {f : SourceFile} {w : Path} (hw : p.outputPath f = some w) :
    p.dir.chars ≠ [] ∧ (w.isAbsolute = true ∨ (w.strip? p.dir).isSome = true) := by
  have hsettles := settles_of_ofConfig h
  have hdir := dirOf_of_isAbsolute hkey
  rw [← hsettles.dir] at hdir
  have hplain : p.dir.lead ≠ .bare := by
    rcases hdir with hroot | hdot
    · simp [hroot]
    · rw [hdot]
      decide
  have houtDir : p.outDir.lead = .root ∨ p.outDir.lead = p.dir.lead := by
    rw [hsettles.outDir]
    cases c.options.outDir with
    | none => exact .inr rfl
    | some text => exact Path.lead_join hplain _
  have hlead : w.lead = .root ∨ w.lead = p.dir.lead := by
    unfold outputPath at hw
    split at hw
    · cases hw
    · cases hw
      rcases houtDir with hroot | hsame
      · exact .inl ((Path.lead_join (by simp [hroot]) _).elim id fun hjoin => hjoin.trans hroot)
      · rw [← hsame]
        exact Path.lead_join (by rw [hsame]; exact hplain) _
  refine ⟨Path.chars_ne_nil_of_lead hplain, ?_⟩
  have habsolute : w.lead = .root → w.isAbsolute = true := fun hroot => by simp [Path.isAbsolute, hroot]
  rcases hlead with hroot | hsame
  · exact .inl (habsolute hroot)
  · rcases hdir with hroot | hdot
    · exact .inl (habsolute (hsame.trans hroot))
    · rw [hdot] at hsame ⊢
      exact .inr (Path.isSome_strip?_dot hsame)

theorem exists_outputPath {d : Disk} {program : Program} {forbidden : Bool} {w : Path}
    (hw : w ∈ (p.emit d program forbidden).1.written) : ∃ f, p.outputPath f = some w := by
  unfold emit at hw
  split at hw
  · cases hw
  · obtain ⟨⟨f, -, hf⟩, -⟩ := Turn.resolve_emitFiles p program.files d w hw
    exact ⟨f, hf⟩

/-- **The record of a build finds the outputs again**, one by one and in their order, unless what it
keeps of an output has a backslash; and it is what is read where it was written. -/
theorem outputPaths_written (h : ofConfig c key = .ok p) (hkey : key.isAbsolute = true) (d : Disk)
    (program : Program) (forbidden : Bool) (signature : String) :
    List.Forall₂ (fun found w => '\\' ∉ ((w.strip? p.dir).getD w).chars → found.normalize = w.normalize)
        ((BuildInfo.of p signature (p.emit d program forbidden).1.written).outputPaths p)
        (p.emit d program forbidden).1.written ∧
      ∀ before after, BuildInfo.write before p
        (.of p signature (p.emit d program forbidden).1.written) = (.ok (), after) →
          BuildInfo.read after p =
            some (.of p signature (p.emit d program forbidden).1.written) := by
  refine ⟨?_, fun before after hwrite => ?_⟩
  · rw [BuildInfo.outputPaths, BuildInfo.of, List.map_map, List.forall₂_map_left_iff,
      List.forall₂_same]
    intro w hw hslash
    obtain ⟨f, hf⟩ := exists_outputPath hw
    obtain ⟨hdir, hlies⟩ := isAbsolute_or_isSome_strip? h hkey hf
    dsimp only [Function.comp_apply]
    rw [BuildInfo.outputPath_of_kept hslash, Path.normalize_join_strip? hdir hlies]
  · obtain ⟨place, hres⟩ := BuildInfo.resolve_of_write hwrite
    exact BuildInfo.read_of_resolve hres

/-- Three sources: one below the directory of the project, one that takes a detour and one with an
absolute name. -/
def scattered : Program :=
  ⟨[sourceFile "src/a.ts" "a", sourceFile "more/../b.tsx" "b", sourceFile "/away/c.ts" "c"], []⟩

theorem outputPaths_written_scattered : ∃ p,
    ofConfig (outDirOnly "../lib/./js") oneSourceKey = .ok p ∧
    (p.emit .empty scattered false).1.written =
      [.ofString "/p/../lib/./js/src/a.js", .ofString "/p/../lib/./js/more/../b.js",
        .ofString "/away/c.js"] ∧
    List.Forall₂ (fun w found => found.normalize = w.normalize)
      (p.emit .empty scattered false).1.written
      ((BuildInfo.of p "" (p.emit .empty scattered false).1.written).outputPaths p) ∧
    BuildInfo.read (BuildInfo.write .empty p
        (.of p "" (p.emit .empty scattered false).1.written)).2 p =
      some (.of p "" (p.emit .empty scattered false).1.written) := by
  obtain ⟨p, hp, hwritten, hslash, hwrite⟩ : ∃ p,
      ofConfig (outDirOnly "../lib/./js") oneSourceKey = .ok p ∧
      (p.emit .empty scattered false).1.written =
        [.ofString "/p/../lib/./js/src/a.js", .ofString "/p/../lib/./js/more/../b.js",
          .ofString "/away/c.js"] ∧
      (∀ w ∈ (p.emit .empty scattered false).1.written,
        '\\' ∉ ((w.strip? p.dir).getD w).chars) ∧
      (BuildInfo.write .empty p
        (.of p "" (p.emit .empty scattered false).1.written)).1 = .ok () :=
    exists_of_any (by decide +kernel)
  obtain ⟨hfound, hread⟩ := outputPaths_written hp (by decide) .empty scattered false ""
  have hboth := (List.forall₂_and_left _ _).2 ⟨hslash, List.Forall₂.flip hfound⟩
  refine ⟨p, hp, hwritten, hboth.imp fun w found h => h.2 h.1, hread .empty _ ?_⟩
  exact Prod.ext hwrite rfl

/-- **A record loses an output with a backslash in its path**: it keeps another path, which leads
elsewhere. -/
theorem not_outputPaths_slanted : ∃ p, ofConfig (outDirOnly "o\\ut") oneSourceKey = .ok p ∧
    (p.emit .empty ⟨[sourceFile "a.ts" "a"], []⟩ false).1.written = [.ofString "/p/o\\ut/a.js"] ∧
    (BuildInfo.of p "" [.ofString "/p/o\\ut/a.js"]).outputPaths p = [.ofString "/p/o/ut/a.js"] ∧
    Path.normalize (.ofString "/p/o/ut/a.js") ≠ Path.normalize (.ofString "/p/o\\ut/a.js") :=
  exists_of_any (by decide +kernel)

end Project

end Conformance
