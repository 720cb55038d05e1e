import Conformance.Exemption.Entry
import Conformance.Proofs.Path.Joining
/-!
# Directories in exemptions

A directory covers a path by the characters of the two: those of the path begin with those of the
directory, and end there or go on with a slash.  In terms of names this is what it should be, the
names of the directory are the first names of the path (`splitOn_prefix_iff`), whatever empty names
the two may have.  So no directory covers its siblings, and one that is made of slashes alone covers
nothing (`covers_directories`).
-/
namespace Conformance

open Text (splitOn joinWith)

/-- **The pieces of a text are the first ones of another exactly when the other goes on behind it
at a separator**, or ends there. -/
theorem Text.splitOn_prefix_iff {sep : Char} {front cs : List Char} :
    splitOn sep front <+: splitOn sep cs ↔ cs = front ∨ ∃ rest, cs = front ++ sep :: rest := by
  constructor
  · rintro ⟨pieces, hpieces⟩
    have hcs : joinWith sep (splitOn sep front ++ pieces) = cs := by
      rw [hpieces, joinWith_splitOn]
    cases pieces with
    | nil =>
      rw [List.append_nil, joinWith_splitOn] at hcs
      exact .inl hcs.symm
    | cons piece pieces =>
      rw [joinWith_append (splitOn_ne_nil sep front) (by simp), joinWith_splitOn] at hcs
      exact .inr ⟨_, hcs.symm⟩
  · rintro (rfl | ⟨rest, rfl⟩)
    · exact List.prefix_refl _
    · exact ⟨splitOn sep rest, (splitOn_append_sep rest front).symm⟩

namespace ProjectPath

theorem behind?_eq_some : ∀ {front cs rest : List Char},
    behind? front cs = some rest ↔ cs = front ++ rest
  | [], cs, rest => by simp [behind?]
  | f :: front, [], rest => by simp [behind?]
  | f :: front, c :: cs, rest => by
    by_cases h : f = c
    · subst h
      simp [behind?, behind?_eq_some]
    · simp [behind?, h, Ne.symm h]

/-- **A directory is over the paths that begin with its names.** -/
theorem isUnder_iff {p : ProjectPath} {dir : List Char} : p.isUnder dir = true ↔
    dropSlashesEnd dir ≠ [] ∧ splitOn '/' (dropSlashesEnd dir) <+: splitOn '/' p.chars := by
  rw [Text.splitOn_prefix_iff, isUnder]
  generalize dropSlashesEnd dir = names
  have hbehind : (∃ rest, behind? names p.chars = some rest ∧
      (rest = [] ∨ ∃ more, rest = '/' :: more)) ↔
        p.chars = names ∨ ∃ more, p.chars = names ++ '/' :: more := by
    simp only [behind?_eq_some]
    constructor
    · rintro ⟨rest, hrest, rfl | ⟨more, rfl⟩⟩
      · exact .inl (by rw [hrest, List.append_nil])
      · exact .inr ⟨more, hrest⟩
    · rintro (hend | ⟨more, hmore⟩)
      · exact ⟨[], by rw [hend, List.append_nil], .inl rfl⟩
      · exact ⟨_, hmore, .inr ⟨more, rfl⟩⟩
  rw [← hbehind]
  cases names with
  | nil => simp
  | cons c names =>
    cases behind? (c :: names) p.chars with
    | none => simp
    | some rest => cases rest <;> simp

end ProjectPath

namespace ExemptionEntry

open ProjectPath (dropSlashesEnd)

/-- **An entry of directories covers the paths that begin with the names of one of them.** There is
an entry for every list of directories, and it covers a path exactly when one of the directories,
without the slashes at its end, is not empty and its names are the first names of the path. -/
theorem covers_directories (reason : Option String) (dirs : List String) :
    ∃ e, ofText { reason, prefixes := dirs } = .ok e ∧ ∀ p : ProjectPath, e.covers p = true ↔
      ∃ dir ∈ dirs, dropSlashesEnd dir.toList ≠ [] ∧
        splitOn '/' (dropSlashesEnd dir.toList) <+: splitOn '/' p.chars := by
  refine ⟨⟨reason, [], namedDirectories dirs, []⟩, rfl, fun p => ?_⟩
  have hcovers : covers ⟨reason, [], namedDirectories dirs, []⟩ p =
      (namedDirectories dirs).any p.isUnder := by
    simp [covers, Glob.anyMatch]
  rw [hcovers, List.any_eq_true]
  simp only [ProjectPath.isUnder_iff, namedDirectories, List.mem_filter, List.mem_map]
  constructor
  · rintro ⟨_, ⟨⟨dir, hdir, rfl⟩, -⟩, hunder⟩
    exact ⟨dir, hdir, hunder⟩
  · rintro ⟨dir, hdir, hunder⟩
    exact ⟨dir.toList, ⟨⟨dir, hdir, rfl⟩, by simpa using hunder.1⟩, hunder⟩

/-- A directory with its names in front of a path, and one that only begins like a name of it. -/
example : ProjectPath.isUnder ⟨"src/legacy2/widget.ts".toList⟩ "src/legacy2//".toList = true ∧
    ProjectPath.isUnder ⟨"src/legacy2/widget.ts".toList⟩ "src/legacy".toList = false := by
  decide +kernel

end ExemptionEntry

end Conformance
