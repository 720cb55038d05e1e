import Conformance.Proofs.Path.Resolving
import Conformance.Proofs.Project.Showing
/-!
# Where project paths lead

A project path drops the dots that a text starts with, each with the slash behind it, and these take
no steps.  So it takes the steps of the text, and it leads, by its text alone, to where the text
leads, as long as both start in the same place.  They do not where a second slash stands behind the
dots: it is in front then, and what was relative is read from the root (`normalize_ofString_iff`).
-/
namespace Conformance.ProjectPath

open Conformance.Path (stepsOf)
open Text (splitOn)

def dotSlashes (dots : Nat) : List Char := (List.replicate dots ['.', '/']).flatten

theorem dotSlashes_succ (dots : Nat) : dotSlashes (dots + 1) = '.' :: '/' :: dotSlashes dots := by
  rw [dotSlashes, List.replicate_succ]
  rfl

theorem exists_dotSlashes (cs : List Char) : ∃ dots, cs = dotSlashes dots ++ dropDotSlash cs := by
  fun_induction dropDotSlash cs with
  | case1 rest ih =>
    obtain ⟨dots, hdots⟩ := ih
    refine ⟨dots + 1, ?_⟩
    rw [dotSlashes_succ, List.cons_append, List.cons_append, ← hdots]
  | case2 cs => exact ⟨0, rfl⟩

theorem dropDotSlash_dotSlashes (rest : List Char) : ∀ dots : Nat,
    dropDotSlash (dotSlashes dots ++ '/' :: rest) = '/' :: rest
  | 0 => rfl
  | dots + 1 => by
    rw [dotSlashes_succ]
    exact dropDotSlash_dotSlashes rest dots

theorem stepsOf_dropDotSlash (cs : List Char) :
    stepsOf (splitOn '/' (dropDotSlash cs)) = stepsOf (splitOn '/' cs) := by
  fun_induction dropDotSlash cs with
  | case1 rest ih =>
    have hsplit : splitOn '/' ('.' :: '/' :: rest) = ['.'] :: splitOn '/' rest :=
      Text.splitOn_append_sep rest ['.']
    rw [hsplit, Path.stepsOf_cons, ih]
    rfl
  | case2 cs => rfl

/-- **A project path takes the steps of its text.** -/
theorem stepsOf_pieces_ofChars (cs : List Char) :
    stepsOf (ofChars cs).toPath.pieces = stepsOf (Path.pieces ⟨forwardSlashes cs⟩) := by
  rw [← Path.stepsOf_splitOn, ← Path.stepsOf_splitOn, ← stepsOf_dropDotSlash (forwardSlashes cs),
    toPath, ofChars]
  split
  · rename_i hnil
    -- the project itself is shown as a dot
    rw [hnil]
    rfl
  · rfl

/-- Behind the dots that a text starts with stands another slash. -/
def BuriesRoot (cs : List Char) : Prop :=
  ∃ dots rest, forwardSlashes cs = dotSlashes (dots + 1) ++ '/' :: rest

theorem isAbsolute_ofChars (cs : List Char) :
    (ofChars cs).toPath.isAbsolute = true ↔ ∃ rest, dropDotSlash (forwardSlashes cs) = '/' :: rest := by
  rw [Path.isAbsolute_iff, toPath, ofChars]
  split
  · rename_i hnil
    simp [hnil]
  · rfl

theorem isAbsolute_of_buriesRoot {cs : List Char} (h : BuriesRoot cs) :
    (ofChars cs).toPath.isAbsolute = true ∧ Path.isAbsolute ⟨forwardSlashes cs⟩ = false := by
  obtain ⟨dots, rest, hcs⟩ := h
  refine ⟨(isAbsolute_ofChars cs).2 ⟨rest, ?_⟩, ?_⟩
  · rw [hcs, dropDotSlash_dotSlashes]
  · rw [hcs, dotSlashes_succ, Bool.eq_false_iff, Ne, Path.isAbsolute_iff]
    rintro ⟨more, hmore⟩
    cases hmore

theorem isAbsolute_ofChars_eq {cs : List Char} (h : ¬BuriesRoot cs) :
    (ofChars cs).toPath.isAbsolute = Path.isAbsolute ⟨forwardSlashes cs⟩ := by
  rw [Bool.eq_iff_iff, isAbsolute_ofChars, Path.isAbsolute_iff]
  obtain ⟨dots, hdots⟩ := exists_dotSlashes (forwardSlashes cs)
  cases dots with
  | zero =>
    have hsame : dropDotSlash (forwardSlashes cs) = forwardSlashes cs := hdots.symm
    rw [hsame]
  | succ dots =>
    constructor
    · rintro ⟨rest, hrest⟩
      rw [hrest] at hdots
      exact absurd ⟨dots, rest, hdots⟩ h
    · rintro ⟨rest, hrest⟩
      rw [dotSlashes_succ] at hdots
      cases hrest.symm.trans hdots

/-- **A project path leads where its text leads, and starts where it starts, unless the root is
buried in the text.** -/
theorem normalize_ofString_iff (s : String) :
    ((ofString s).toPath.normalize = Path.normalize ⟨forwardSlashes s.toList⟩ ↔
      ¬BuriesRoot s.toList) ∧
    ((ofString s).toPath.isAbsolute = Path.isAbsolute ⟨forwardSlashes s.toList⟩ ↔
      ¬BuriesRoot s.toList) := by
  have hstarts : (ofString s).toPath.isAbsolute = Path.isAbsolute ⟨forwardSlashes s.toList⟩ ↔
      ¬BuriesRoot s.toList := by
    refine ⟨fun heq hburied => ?_, isAbsolute_ofChars_eq⟩
    obtain ⟨habsolute, hrelative⟩ := isAbsolute_of_buriesRoot hburied
    exact Bool.noConfusion (habsolute.symm.trans (heq.trans hrelative))
  refine ⟨⟨fun heq => hstarts.1 ?_, fun h => ?_⟩, hstarts⟩
  · rw [← Path.isAbsolute_normalize, heq, Path.isAbsolute_normalize]
  · refine Path.normalize_congr (hstarts.2 h) ?_
    rw [ofString, stepsOf_pieces_ofChars]

/-- **A relative text may be shown as a path from the root.** -/
theorem not_normalize_buried :
    (ofString ".//etc/a").toPath.normalize ≠ Path.normalize ⟨forwardSlashes ".//etc/a".toList⟩ ∧
      (ofString ".//etc/a").toPath = .ofString "/etc/a" ∧
      Path.isAbsolute ⟨forwardSlashes ".//etc/a".toList⟩ = false := by decide

end Conformance.ProjectPath
