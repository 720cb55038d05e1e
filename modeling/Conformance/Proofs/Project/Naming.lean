import Conformance.Proofs.Glob.Reading
import Conformance.Proofs.Project.Showing
/-!
# Texts that name the directory of a project

The path of an output directory is read twice: as a path, from the directory of the project, and as
the glob that passes over what is below it.  The path can name the directory of the project in
endless ways.  It can be absolute or go up and come back; then the glob keeps the slash in front or
the double dot (`GoesUpOutside.split`).  If it does neither, all of its pieces are idle
(`idle_of_normalize_join`), and it is shown as a dot or with a slash in front (`here_or_root`).
-/
namespace Conformance

open Conformance.Path (dotDot isIdle stepsOf resolvedNames)
open Text (splitOn joinWith)

/-! ## Pieces -/

namespace Text

theorem joinWith_append_cons (sep : Char) (w : List Char) (back : List (List Char)) :
    ∀ front : List (List Char), joinWith sep (front ++ w :: back) =
      front.flatMap (· ++ [sep]) ++ joinWith sep (w :: back)
  | [] => rfl
  | piece :: front => by
    rw [List.cons_append, joinWith_cons piece (by simp), joinWith_append_cons sep w back front]
    simp

theorem exists_of_splitOn_eq {sep : Char} {cs w : List Char} {front back : List (List Char)}
    (h : splitOn sep cs = front ++ w :: back) :
    ∃ ys, cs = front.flatMap (· ++ [sep]) ++ (w ++ ys) ∧ (ys = [] ∨ ∃ rest, ys = sep :: rest) := by
  have hcs := joinWith_splitOn sep cs
  rw [h, joinWith_append_cons] at hcs
  cases back with
  | nil => exact ⟨[], by rw [← hcs, joinWith, List.append_nil], .inl rfl⟩
  | cons next back =>
    rw [joinWith_cons w (List.cons_ne_nil next back)] at hcs
    exact ⟨_, hcs.symm, .inr ⟨_, rfl⟩⟩

end Text

/-! ## The path of an output directory as a glob -/

namespace ProjectPath

theorem dropDotSlash_ne (cs rest : List Char) : dropDotSlash cs ≠ '.' :: '/' :: rest := by
  fun_induction dropDotSlash cs with
  | case1 cs ih => exact ih
  | case2 cs hcs => exact hcs rest

theorem ofChars_ne (cs rest : List Char) : (ofChars cs).chars ≠ '.' :: '/' :: rest := by
  unfold ofChars
  split
  · simp
  · rename_i hshown
    exact dropDotSlash_ne _ rest

theorem forwardSlashes_append (xs ys : List Char) :
    forwardSlashes (xs ++ ys) = forwardSlashes xs ++ forwardSlashes ys := List.map_append

theorem mem_splitOn_forwardSlashes {w : List Char} (hw : '\\' ∉ w) :
    ∀ {pieces : List (List Char)}, (∀ piece ∈ pieces, '/' ∉ piece) → w ∈ pieces →
      w ∈ splitOn '/' (forwardSlashes (joinWith '/' pieces))
  | [], _, h => by cases h
  | [piece], hpieces, h => by
    cases List.mem_singleton.1 h
    rw [joinWith, BuildInfo.forwardSlashes_of_not_mem hw,
      Text.splitOn_of_not_mem (hpieces w List.mem_cons_self)]
    exact List.mem_singleton_self w
  | piece :: next :: pieces, hpieces, h => by
    have hsplit : splitOn '/' (forwardSlashes (joinWith '/' (piece :: next :: pieces))) =
        splitOn '/' (forwardSlashes piece) ++
          splitOn '/' (forwardSlashes (joinWith '/' (next :: pieces))) := by
      rw [Text.joinWith_cons piece (List.cons_ne_nil next pieces), forwardSlashes_append]
      exact Text.splitOn_append_sep _ _
    rw [hsplit, List.mem_append]
    rcases List.mem_cons.1 h with rfl | h
    · rw [BuildInfo.forwardSlashes_of_not_mem hw,
        Text.splitOn_of_not_mem (hpieces w List.mem_cons_self)]
      exact .inl (List.mem_singleton_self w)
    · exact .inr (mem_splitOn_forwardSlashes hw
        (fun p hp => hpieces p (List.mem_cons_of_mem piece hp)) h)

theorem dotDot_mem_dropDotSlash (cs : List Char) (h : dotDot ∈ splitOn '/' cs) :
    dotDot ∈ splitOn '/' (dropDotSlash cs) := by
  fun_induction dropDotSlash cs with
  | case1 cs ih =>
    have hsplit : splitOn '/' ('.' :: '/' :: cs) = ['.'] :: splitOn '/' cs :=
      Text.splitOn_append_sep cs ['.']
    rw [hsplit] at h
    exact ih (List.mem_of_ne_of_mem (by decide) h)
  | case2 cs _ => exact h

theorem dotDot_mem_ofChars {cs : List Char} (h : dotDot ∈ splitOn '/' cs) :
    dotDot ∈ splitOn '/' (ofChars cs).chars := by
  have hforward : dotDot ∈ splitOn '/' (forwardSlashes cs) := by
    have hmem := mem_splitOn_forwardSlashes (by decide)
      (fun _ => Text.not_mem_of_mem_splitOn) h
    rwa [Text.joinWith_splitOn] at hmem
  have hdrop := dotDot_mem_dropDotSlash _ hforward
  unfold ofChars
  split
  · rename_i hnil
    rw [hnil] at hdrop
    exact absurd hdrop (by decide)
  · exact hdrop

theorem ofChars_of_idle : ∀ {pieces : List (List Char)}, (∀ piece ∈ pieces, isIdle piece = true) →
    ofChars (joinWith '/' pieces) = here ∨
      ∃ rest, (ofChars (joinWith '/' pieces)).chars = '/' :: rest
  | [], _ => .inl rfl
  | [piece], h => by
    rcases (by simpa [isIdle] using h piece List.mem_cons_self : piece = [] ∨ piece = ['.']) with
      rfl | rfl
    · exact .inl rfl
    · exact .inl rfl
  | piece :: next :: pieces, h => by
    rw [Text.joinWith_cons piece (List.cons_ne_nil next pieces)]
    rcases (by simpa [isIdle] using h piece List.mem_cons_self : piece = [] ∨ piece = ['.']) with
      rfl | rfl
    · exact .inr ⟨_, rfl⟩
    · exact ofChars_of_idle fun p hp => h p (List.mem_cons_of_mem ['.'] hp)

/-- Where a path goes up, it does so once behind a text that is a glob of its own: not inside of
brackets. -/
def GoesUpOutside (p : ProjectPath) : Prop :=
  dotDot ∈ splitOn '/' p.chars → ∃ front back, splitOn '/' p.chars = front ++ dotDot :: back ∧
    ∃ inner, GlobToken.parse (front.flatMap (· ++ ['/'])) = .ok inner

theorem exists_dropSlashesEnd (cs : List Char) :
    ∃ slashes, dropSlashesEnd cs ++ slashes = cs ∧ ∀ c ∈ slashes, c = '/' := by
  refine ⟨(cs.reverse.takeWhile (· == '/')).reverse, ?_, fun c hc => ?_⟩
  · rw [dropSlashesEnd, ← List.reverse_append, List.takeWhile_append_dropWhile,
      List.reverse_reverse]
  · have htaken := List.mem_takeWhile_imp (List.mem_reverse.1 hc)
    exact beq_iff_eq.1 htaken

theorem dropSlashesEnd_append {c : Char} (hc : c ≠ '/') (xs ys : List Char) :
    dropSlashesEnd (xs ++ c :: ys) = xs ++ c :: dropSlashesEnd ys := by
  rw [dropSlashesEnd, List.reverse_append, List.reverse_cons, List.append_assoc,
    List.dropWhile_append]
  split
  · rename_i hempty
    rw [dropSlashesEnd, List.isEmpty_iff.1 hempty]
    simp [hc]
  · simp [dropSlashesEnd]

theorem exists_slash_append {cs : List Char} (h : cs = [] ∨ ∃ rest, cs = '/' :: rest)
    (more : List Char) : ∃ tail, dropSlashesEnd cs ++ '/' :: more = '/' :: tail := by
  obtain ⟨slashes, hcs, -⟩ := exists_dropSlashesEnd cs
  cases hdrop : dropSlashesEnd cs with
  | nil => exact ⟨more, rfl⟩
  | cons c front =>
    rw [hdrop] at hcs
    rcases h with rfl | ⟨rest, rfl⟩
    · cases hcs
    · cases (List.cons.inj hcs).1
      exact ⟨_, rfl⟩

theorem GoesUpOutside.split {p : ProjectPath} (h : p.GoesUpOutside)
    (hup : dotDot ∈ splitOn '/' p.chars) (more : List Char) : ∃ front tail inner,
      dropSlashesEnd p.chars ++ '/' :: more = front ++ '.' :: '.' :: '/' :: tail ∧
      GlobToken.parse front = .ok inner ∧ GlobToken.EndsInSlash front := by
  obtain ⟨front, back, hsplit, inner, hinner⟩ := h hup
  obtain ⟨ys, hchars, hys⟩ := Text.exists_of_splitOn_eq hsplit
  obtain ⟨tail, htail⟩ := exists_slash_append hys more
  refine ⟨_, tail, inner, ?_, hinner, fun c hc => ?_⟩
  · -- the slashes that are cut off at the end stand behind the double dot
    have hdots : p.chars = (front.flatMap (· ++ ['/']) ++ ['.']) ++ '.' :: ys := by
      rw [hchars]
      simp [dotDot]
    rw [hdots, dropSlashesEnd_append (by decide), ← htail]
    simp
  · rcases List.eq_nil_or_concat front with rfl | ⟨pieces, piece, rfl⟩
    · cases hc
    · simpa [eq_comm] using hc

/-- **The glob for an output directory is its project path with two stars behind**, unless that is
the project itself. -/
theorem ofChars_outDir {cs more : List Char} (hhere : ofChars cs ≠ here) (hmore : '\\' ∉ more) :
    ofChars (dropSlashesEnd (ofChars cs).chars ++ '/' :: more) =
      ⟨dropSlashesEnd (ofChars cs).chars ++ '/' :: more⟩ := by
  obtain ⟨slashes, hcs, hslashes⟩ := exists_dropSlashesEnd (ofChars cs).chars
  refine ofChars_of_ne ?_ (by simp) fun rest h => ?_
  · rw [List.mem_append, List.mem_cons]
    rintro (hmem | hmem | hmem)
    · exact backslash_not_mem_ofChars cs (hcs ▸ List.mem_append_left slashes hmem)
    · cases hmem
    · exact hmore hmem
  · -- a dot and a slash in front could only come of a path that has them, or of the dot alone
    cases hdrop : dropSlashesEnd (ofChars cs).chars with
    | nil =>
      rw [hdrop] at h
      cases h
    | cons c front =>
      rw [hdrop] at h hcs
      cases (List.cons.inj h).1
      cases front with
      | cons d front =>
        cases (List.cons.inj (List.cons.inj h).2).1
        exact ofChars_ne cs _ hcs.symm
      | nil =>
        cases slashes with
        | nil => exact hhere (congrArg ProjectPath.mk hcs.symm)
        | cons d slashes =>
          cases hslashes d List.mem_cons_self
          exact ofChars_ne cs _ hcs.symm

end ProjectPath

/-! ## Naming the directory itself -/

namespace Path

theorem stepsOf_of_not_mem {pieces : List (List Char)} (h : dotDot ∉ pieces) :
    stepsOf pieces = (pieces.filter fun p => !isIdle p).map .name := by
  refine List.map_congr_left fun piece hpiece => if_neg ?_
  rw [beq_iff_eq]
  rintro rfl
  exact h (List.mem_filter.1 hpiece).1

/-- **A path that is joined to a directory and does not go up leads to the directory itself only if
it names nothing.** -/
theorem idle_of_normalize_join {dir q : Path} (hq : q.isAbsolute = false)
    (hup : dotDot ∉ splitOn '/' q.chars) (h : (dir.join q).normalize = dir.normalize) :
    ∀ piece ∈ splitOn '/' q.chars, isIdle piece = true := by
  have hnames : resolvedNames false q.components = (splitOn '/' q.chars).filter (!isIdle ·) := by
    rw [resolvedNames, foldl_components, ← stepsOf_splitOn, stepsOf_of_not_mem hup,
      foldl_stackStep_names]
    simp
  have hinner : q.IsInner :=
    ⟨hq, fun hmem => hup (List.mem_filter.1 (hnames ▸ hmem)).1⟩
  -- the joined path resolves to the names of the directory and those of `q`: there are none of `q`
  have hjoined := (isNormal_resolvedNames (dir.join q)).components
  rw [isAbsolute_join_eq dir hq, resolvedNames_join dir hinner, h,
    (isNormal_resolvedNames dir).components, stepsOf_append, stepsOf_names hinner.isName, hnames]
    at hjoined
  have hnone : (splitOn '/' q.chars).filter (!isIdle ·) = [] := by simpa using hjoined
  intro piece hpiece
  simpa using List.filter_eq_nil_iff.1 hnone piece hpiece

end Path

namespace Project

theorem here_or_root {dir : Path} {text : String}
    (hdir : (pathIn dir text).normalize = dir.normalize)
    (hup : dotDot ∉ splitOn '/' (ProjectPath.ofString text).chars) :
    ProjectPath.ofString text = .here ∨
      ∃ rest, (ProjectPath.ofString text).chars = '/' :: rest := by
  by_cases habsolute : (Path.ofString text).isAbsolute = true
  · obtain ⟨rest, hrest⟩ := (Path.isAbsolute_iff _).1 habsolute
    refine .inr ⟨ProjectPath.forwardSlashes rest, ?_⟩
    rw [Path.chars_ofString] at hrest
    rw [ProjectPath.ofString, hrest]
    rfl
  · have hidle := Path.idle_of_normalize_join (by simpa using habsolute)
      (fun hmem => hup (ProjectPath.dotDot_mem_ofChars hmem)) hdir
    have hshown := ProjectPath.ofChars_of_idle hidle
    rwa [Text.joinWith_splitOn] at hshown

end Project

end Conformance
