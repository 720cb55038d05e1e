import Conformance.Proofs.Project.Discovering
import Conformance.Proofs.Project.Naming
import Conformance.Proofs.Project.Settled
/-!
# What an output directory hides

A project that names no globs of its own passes over its output directory, by a glob made of the
text of its path.  Where the text names the directory of the project itself, the glob is to match
nothing that is found below, since no source is an output.  It does not match what is not behind the
root and does not go up (`not_isMatch_outDir`); but a dot in front is left out of a glob, and where
the path is a dot alone nothing is left of it, so that everything matches (`roots_of_namesDir`).
-/
namespace Conformance

open Conformance.Path (IsName dotDot isIdle)
open Text (splitOn joinWith)

namespace Project

def outDirPattern (text : String) : String :=
  String.ofList (ProjectPath.dropSlashesEnd (ProjectPath.ofString text).chars) ++ "/**"

/-- **The output directory hides nothing** where it is the directory of the project, as long as its
path is not a dot. -/
theorem not_isMatch_outDir {dir : Path} {text : String} {g : Glob} {names : List (List Char)}
    (hg : Glob.parse (ProjectPath.ofString (outDirPattern text)).text = .ok g)
    (hdir : (pathIn dir text).normalize = dir.normalize) (hhere : ProjectPath.ofString text ≠ .here)
    (houtside : (ProjectPath.ofString text).GoesUpOutside) (hne : names ≠ [])
    (hnames : ∀ n ∈ names, IsName n) : g.isMatch (joinWith '/' names) = false := by
  have hwhole : ∀ n ∈ names, '/' ∉ n := fun n hn => (hnames n hn).whole
  rw [Bool.eq_false_iff]
  intro hmatch
  have hpattern : (ProjectPath.ofString (outDirPattern text)).text.toList =
      ProjectPath.dropSlashesEnd (ProjectPath.ofString text).chars ++ '/' :: ['*', '*'] := by
    have hmore : '\\' ∉ ['*', '*'] := by decide
    rw [ProjectPath.text, String.toList_ofList, ProjectPath.ofString, outDirPattern,
      String.toList_append, String.toList_ofList]
    exact congrArg ProjectPath.chars (ProjectPath.ofChars_outDir hhere hmore)
  -- a glob that goes up and one from the root match no names below the directory
  by_cases hup : dotDot ∈ splitOn '/' (ProjectPath.ofString text).chars
  · obtain ⟨front, tail, inner, hsplit, hinner, hend⟩ := houtside.split hup ['*', '*']
    have hgoesUp := Glob.goesUp_of_isMatch hg (hpattern.trans hsplit) hinner hend hmatch
    rw [Text.splitOn_joinWith hne hwhole] at hgoesUp
    exact (hnames dotDot hgoesUp).notUp rfl
  · rcases here_or_root hdir hup with h | hroot
    · exact hhere h
    · obtain ⟨tail, htail⟩ := ProjectPath.exists_slash_append (.inr hroot) ['*', '*']
      obtain ⟨rest, hrest⟩ := Glob.root_of_isMatch hg (hpattern.trans htail) hmatch
      have hsplit := Text.splitOn_joinWith hne hwhole
      rw [hrest, splitOn, if_pos rfl] at hsplit
      have hbusy := (hnames [] (by rw [← hsplit]; exact List.mem_cons_self)).busy
      cases hbusy

end Project

/-! ## What is listed -/

instance (piece : List Char) : Decidable (IsName piece) :=
  decidable_of_iff (isIdle piece = false ∧ piece ≠ dotDot ∧ '/' ∉ piece)
    ⟨fun h => ⟨h.1, h.2.1, h.2.2⟩, fun h => ⟨h.busy, h.notUp, h.whole⟩⟩

namespace Disk

/-- Each name on a disk names something. -/
def IsNamed (d : Disk) : Prop := ∀ x ∈ d.entries, ∀ n ∈ x.1, IsName n

instance (d : Disk) : Decidable d.IsNamed :=
  inferInstanceAs (Decidable (∀ x ∈ d.entries, ∀ n ∈ x.1, IsName n))

theorem exists_of_mem_filesBelow {d : Disk} {dir path : Path} (h : path ∈ d.filesBelow dir) :
    dir.chars ≠ [] ∧ ∃ names, names ≠ [] ∧ path = dir.join ⟨joinWith '/' names⟩ ∧
      ∃ place e, (place ++ names, e) ∈ d.entries := by
  obtain ⟨place, names, bytes, hres, hne, hentry, rfl⟩ := mem_filesBelow_iff.1 h
  have hdir := (checkPath_eq_ok.1 (resolve_eq_ok.1 hres).1).2.1
  exact ⟨hdir, names, hne, rfl, place, _, hentry⟩

end Disk

namespace Project

theorem relativeTo_of_listed {d : Disk} {dir path : Path} (hnamed : d.IsNamed)
    (h : path ∈ d.filesBelow dir) (hslash : '\\' ∉ ((path.strip? dir).getD path).chars) :
    ∃ names, names ≠ [] ∧ (∀ n ∈ names, IsName n) ∧
      (ProjectPath.relativeTo dir path).chars = joinWith '/' names := by
  obtain ⟨hdir, names, hne, rfl, place, e, hentry⟩ := Disk.exists_of_mem_filesBelow h
  have hnames : ∀ n ∈ names, IsName n :=
    fun n hn => hnamed _ hentry n (List.mem_append_right place hn)
  have hsplit := Text.splitOn_joinWith hne fun n hn => (hnames n hn).whole
  rw [Path.strip?_join hdir hne hnames, Option.getD_some] at hslash
  have hchars : joinWith '/' names ≠ [] := by
    intro hnil
    rw [hnil] at hsplit
    cases (hnames [] (by rw [← hsplit]; exact List.mem_cons_self)).busy
  have hdot : ∀ rest, joinWith '/' names ≠ '.' :: '/' :: rest := by
    intro rest hdot
    have hhere : splitOn '/' ('.' :: '/' :: rest) = ['.'] :: splitOn '/' rest :=
      Text.splitOn_append_sep rest ['.']
    rw [hdot, hhere] at hsplit
    cases (hnames ['.'] (by rw [← hsplit]; exact List.mem_cons_self)).busy
  refine ⟨names, hne, hnames, ?_⟩
  rw [ProjectPath.relativeTo, Path.strip?_join hdir hne hnames, Option.getD_some]
  exact congrArg ProjectPath.chars (ProjectPath.ofChars_of_ne hslash hchars hdot)

/-! ## What is passed over -/

theorem readEach_of_readGlobs {field : GlobField} {patterns : List String} {gs : List Glob}
    (h : readGlobs field patterns = .ok gs) : readEach field patterns = .ok gs := by
  unfold readGlobs at h
  split at h
  · cases h
  · rename_i hread
    split at h
    · cases h
    · cases h
      exact hread

theorem readEach_cons {field : GlobField} {pattern : String} {patterns : List String}
    {gs : List Glob} (h : readEach field (pattern :: patterns) = .ok gs) : ∃ g rest,
      Glob.parse (ProjectPath.ofString pattern).text = .ok g ∧
      readEach field patterns = .ok rest ∧ gs = g :: rest := by
  unfold readEach at h
  dsimp only at h
  split at h
  · cases h
  · rename_i g hparse
    split at h
    · cases h
    · rename_i rest hrest
      cases h
      exact ⟨g, rest, hparse, hrest, rfl⟩

def installedGlob : Glob := ⟨GlobToken.plainBelow "node_modules".toList⟩

def IsInstalled (file : ProjectPath) : Prop := "node_modules/".toList <+: file.chars

instance (file : ProjectPath) : Decidable (IsInstalled file) :=
  inferInstanceAs (Decidable ("node_modules/".toList <+: file.chars))

theorem isMatch_installedGlob {file : ProjectPath} :
    installedGlob.isMatch file.chars = true ↔ IsInstalled file :=
  Glob.isMatch_plainBelow (by simp)

def withoutOutDir (c : ConfigFile) : ConfigFile :=
  { c with options := { c.options with outDir := none } }

theorem excluded_of_none {c : ConfigFile} {key : Path} {p : Project} (h : Settles c key p)
    (hexcluded : c.excluded = none) (houtDir : c.options.outDir = none) :
    p.excluded = [installedGlob] := by
  have hread := h.excluded
  rw [hexcluded, houtDir] at hread
  exact (Except.ok.inj hread).symm

theorem excluded_of_some {c : ConfigFile} {key : Path} {p : Project} (h : Settles c key p)
    (hexcluded : c.excluded = none) {text : String} (houtDir : c.options.outDir = some text) :
    ∃ g, p.excluded = [installedGlob, g] ∧
      Glob.parse (ProjectPath.ofString (outDirPattern text)).text = .ok g := by
  have hread := readEach_of_readGlobs h.excluded
  rw [hexcluded, houtDir] at hread
  obtain ⟨first, rest, hfirst, hrest, hall⟩ := readEach_cons hread
  obtain ⟨g, none, hg, hnone, rfl⟩ := readEach_cons hrest
  cases hfirst
  cases hnone
  exact ⟨g, hall, hg⟩

/-- **An output directory that is the directory of the project hides no source, unless its path is
shown as a dot; then it hides all of them.** -/
theorem roots_of_namesDir {c : ConfigFile} {key : Path} {p : Project} {d : Disk}
    (hsettled : ofConfig c key = .ok p) (hfiles : c.files = none) (hexcluded : c.excluded = none)
    (houtDir : p.outDir.normalize = p.dir.normalize)
    (houtside : ∀ text, c.options.outDir = some text → (ProjectPath.ofString text).GoesUpOutside)
    (hnamed : d.IsNamed)
    (hslash : ∀ path ∈ d.filesBelow p.dir, '\\' ∉ ((path.strip? p.dir).getD path).chars) :
    ∃ q, ofConfig (withoutOutDir c) key = .ok q ∧
      (∀ path, path ∈ q.roots d ↔ path ∈ d.filesBelow p.dir ∧
        Glob.anyMatch p.included (ProjectPath.relativeTo p.dir path).chars = true ∧
        ¬IsInstalled (ProjectPath.relativeTo p.dir path)) ∧
      p.roots d =
        if c.options.outDir.map ProjectPath.ofString = some .here then [] else q.roots d := by
  have hp := settles_of_ofConfig hsettled
  have hdefault : readGlobs .excluded ((withoutOutDir c).excluded.getD
      (defaultExcludes (withoutOutDir c).options.outDir)) = .ok [installedGlob] := by
    rw [show (withoutOutDir c).excluded = none from hexcluded]
    rfl
  have hplain : ∃ q, ofConfig (withoutOutDir c) key = .ok q :=
    exists_settled hp.included hdefault hp.rules
  obtain ⟨q, hsettled'⟩ := hplain
  have hq := settles_of_ofConfig hsettled'
  have hdir : q.dir = p.dir := hq.dir.trans hp.dir.symm
  have hincluded : q.included = p.included := Except.ok.inj (hq.included.symm.trans hp.included)
  have hpfiles : p.files = none := by
    rw [hp.files, hfiles]
    rfl
  have hqfiles : q.files = none := by
    rw [hq.files, show (withoutOutDir c).files = none from hfiles]
    rfl
  have hpasses : q.excluded = [installedGlob] := excluded_of_none hq hexcluded rfl
  refine ⟨q, hsettled', fun path => ?_, ?_⟩
  · rw [mem_roots hqfiles, hdir, takes, hincluded, hpasses, ← isMatch_installedGlob]
    simp [Glob.anyMatch]
  · cases hnamesDir : c.options.outDir with
    | none =>
      rw [if_neg (by simp)]
      refine roots_congr hpfiles hqfiles hdir fun path _ => ?_
      rw [takes, takes, hincluded, hpasses, excluded_of_none hp hexcluded hnamesDir]
    | some text =>
      obtain ⟨g, hexcludes, hg⟩ := excluded_of_some hp hexcluded hnamesDir
      by_cases hhere : ProjectPath.ofString text = .here
      · rw [if_pos (by rw [Option.map_some, hhere])]
        rw [outDirPattern, hhere] at hg
        -- nothing is left of a dot, so the glob is a double star alone
        have hall : g = ⟨[.leading]⟩ := (Except.ok.inj hg).symm
        refine List.eq_nil_iff_forall_not_mem.2 fun path hpath => ?_
        have htakes := ((mem_roots hpfiles).1 hpath).2
        rw [takes, hexcludes, hall] at htakes
        simp [Glob.anyMatch, Glob.isMatch] at htakes
      · rw [if_neg (by simpa using hhere)]
        rw [hp.outDir, hnamesDir] at houtDir
        refine roots_congr hpfiles hqfiles hdir fun path hpath => ?_
        obtain ⟨names, hne, hnames, hshown⟩ := relativeTo_of_listed hnamed hpath (hslash path hpath)
        have hmatches :=
          not_isMatch_outDir hg houtDir hhere (houtside text hnamesDir) hne hnames
        rw [takes, takes, hincluded, hpasses, hexcludes]
        simp [Glob.anyMatch, hshown, hmatches]

/-! ## A dot and a detour -/

def outDirOnly (text : String) : ConfigFile := { options := { outDir := some text } }

def oneSource : Disk where
  entries := [([['p']], .dir), ([['p'], "a.tree.json".toList], .file .empty)]
  here := []

def oneSourceKey : Path := .ofString "/p/tsconfig.json"

theorem exists_of_any {c : ConfigFile} {key : Path} {P : Project → Prop} [DecidablePred P]
    (h : ((ofConfig c key).toOption.any fun p => decide (P p)) = true) :
    ∃ p, ofConfig c key = .ok p ∧ P p := by
  cases hsettled : ofConfig c key with
  | error e => simp [hsettled, Except.toOption] at h
  | ok p => exact ⟨p, rfl, by simpa [hsettled, Except.toOption] using h⟩

theorem roots_of_namesDir_detour : ∃ p, ofConfig (outDirOnly "lib/..") oneSourceKey = .ok p ∧
    .ofString "/p/a.tree.json" ∈ p.roots oneSource := by
  obtain ⟨p, hp, houtDir, hslash, hlisted⟩ :
      ∃ p, ofConfig (outDirOnly "lib/..") oneSourceKey = .ok p ∧
        p.outDir.normalize = p.dir.normalize ∧
        (∀ path ∈ oneSource.filesBelow p.dir, '\\' ∉ ((path.strip? p.dir).getD path).chars) ∧
        .ofString "/p/a.tree.json" ∈ oneSource.filesBelow p.dir ∧
        Glob.anyMatch p.included
          (ProjectPath.relativeTo p.dir (.ofString "/p/a.tree.json")).chars = true ∧
        ¬IsInstalled (ProjectPath.relativeTo p.dir (.ofString "/p/a.tree.json")) :=
    exists_of_any (by decide +kernel)
  have houtside : ∀ text, (outDirOnly "lib/..").options.outDir = some text →
      (ProjectPath.ofString text).GoesUpOutside := by
    rintro text ⟨⟩ -
    exact ⟨["lib".toList], [], by decide, _, rfl⟩
  have hnamed : oneSource.IsNamed := by decide
  obtain ⟨q, -, hq, hroots⟩ := roots_of_namesDir hp rfl rfl houtDir houtside hnamed hslash
  refine ⟨p, hp, ?_⟩
  rw [hroots, if_neg (by decide)]
  exact (hq _).2 hlisted

/-- **A dot hides all sources**: it names the directory of the project, and the project has no root
files, while it has some without an output directory. -/
theorem not_roots_of_dot : ∃ p q, ofConfig (outDirOnly ".") oneSourceKey = .ok p ∧
    ofConfig (withoutOutDir (outDirOnly ".")) oneSourceKey = .ok q ∧
    p.outDir.normalize = p.dir.normalize ∧
    p.roots oneSource = [] ∧ q.roots oneSource = [.ofString "/p/a.tree.json"] := by
  obtain ⟨p, hp, houtDir, hroots⟩ : ∃ p, ofConfig (outDirOnly ".") oneSourceKey = .ok p ∧
      p.outDir.normalize = p.dir.normalize ∧ p.roots oneSource = [] :=
    exists_of_any (by decide +kernel)
  obtain ⟨q, hq, hplain⟩ : ∃ q,
      ofConfig (withoutOutDir (outDirOnly ".")) oneSourceKey = .ok q ∧
        q.roots oneSource = [.ofString "/p/a.tree.json"] :=
    exists_of_any (by decide +kernel)
  exact ⟨p, q, hp, hq, houtDir, hroots, hplain⟩

end Project

end Conformance
