import Conformance.Proofs.Exemption.Settling
import Conformance.Proofs.Glob.Reading
/-!
# Globs of single stars

A glob whose only special characters are single stars is read character by character
(`parse_starred`).  It is matched byte by byte, but a star that stands in front of a character can
only end where a character ends, so what it takes are characters (`reaches_starred`).  No star takes
a slash: the glob and the path have the same number of names, and each name of the path fits the
pattern that stands in its place (`covers_starred`).
-/
namespace Conformance

open Text (splitOn encode byteOf)

/-! ## Names -/

namespace Text

theorem splitOn_ne_nil_cons (sep : Char) (cs : List Char) :
    ∃ piece pieces, splitOn sep cs = piece :: pieces :=
  List.exists_cons_of_ne_nil (splitOn_ne_nil sep cs)

theorem splitOn_eq_nil_cons {sep : Char} {cs : List Char} {pieces : List (List Char)} :
    splitOn sep cs = [] :: pieces ↔
      (cs = [] ∧ pieces = []) ∨ ∃ rest, cs = sep :: rest ∧ splitOn sep rest = pieces := by
  cases cs with
  | nil => simp [splitOn, eq_comm]
  | cons c cs =>
    by_cases hc : c = sep
    · subst hc
      simp [splitOn]
    · obtain ⟨piece, more, hmore⟩ := splitOn_ne_nil_cons sep cs
      simp [splitOn, hc, hmore]

theorem splitOn_eq_append_cons {sep : Char} {piece : List Char} {pieces : List (List Char)} :
    ∀ (run : List Char) {cs : List Char}, splitOn sep cs = (run ++ piece) :: pieces ↔
      sep ∉ run ∧ ∃ rest, cs = run ++ rest ∧ splitOn sep rest = piece :: pieces
  | [], cs => by simp
  | r :: run, [] => by simp [splitOn]
  | r :: run, c :: cs => by
    by_cases hc : c = sep
    · subst hc
      simp only [splitOn, if_true, List.cons_append, List.cons.injEq, reduceCtorEq, false_and,
        false_iff]
      rintro ⟨hrun, rest, ⟨rfl, -⟩, -⟩
      exact hrun List.mem_cons_self
    · obtain ⟨first, more, hmore⟩ := splitOn_ne_nil_cons sep cs
      have hcs : splitOn sep cs = (run ++ piece) :: pieces ↔ _ := splitOn_eq_append_cons run
      rw [hmore] at hcs
      simp only [splitOn, hc, hmore, if_false, List.cons_append, List.cons.injEq]
      constructor
      · rintro ⟨⟨rfl, hfirst⟩, hpieces⟩
        obtain ⟨hrun, rest, hrest, hsplit⟩ := hcs.1 (by rw [hfirst, hpieces])
        exact ⟨by simp [hrun, Ne.symm hc], rest, ⟨rfl, hrest⟩, hsplit⟩
      · rintro ⟨hrun, rest, ⟨rfl, hrest⟩, hsplit⟩
        obtain ⟨hfirst, hpieces⟩ := List.cons.inj
          (hcs.2 ⟨fun h => hrun (List.mem_cons_of_mem c h), rest, hrest, hsplit⟩)
        exact ⟨⟨rfl, hfirst⟩, hpieces⟩

end Text

namespace Glob

/-- A name fits a pattern: a star stands for any run of characters and every other character for
itself. -/
inductive Fits : List Char → List Char → Prop where
  | nil : Fits [] []
  | char {c : Char} {pattern name : List Char} : c ≠ '*' → Fits pattern name →
    Fits (c :: pattern) (c :: name)
  | star {pattern name : List Char} (run : List Char) : Fits pattern name →
    Fits ('*' :: pattern) (run ++ name)

def FitsNames (glob path : List Char) : Prop :=
  List.Forall₂ Fits (splitOn '/' glob) (splitOn '/' path)

theorem fits_nil {name : List Char} : Fits [] name ↔ name = [] := by
  constructor
  · intro h
    cases h
    rfl
  · rintro rfl
    exact .nil

theorem fits_char {c : Char} (hc : c ≠ '*') {pattern name : List Char} :
    Fits (c :: pattern) name ↔ ∃ rest, name = c :: rest ∧ Fits pattern rest := by
  constructor
  · intro h
    cases h with
    | char _ hrest => exact ⟨_, rfl, hrest⟩
    | star => exact absurd rfl hc
  · rintro ⟨rest, rfl, hrest⟩
    exact .char hc hrest

theorem fits_star {pattern name : List Char} :
    Fits ('*' :: pattern) name ↔ ∃ run rest, name = run ++ rest ∧ Fits pattern rest := by
  constructor
  · intro h
    cases h with
    | char hc => exact absurd rfl hc
    | star run hrest => exact ⟨run, _, rfl, hrest⟩
  · rintro ⟨run, rest, rfl, hrest⟩
    exact .star run hrest

/-! What a whole path fits, by the first character of the glob. -/

theorem fitsNames_nil {path : List Char} : FitsNames [] path ↔ path = [] := by
  constructor
  · intro h
    obtain ⟨name, names, hname, hnames, hsplit⟩ := List.forall₂_cons_left_iff.1 h
    rw [fits_nil.1 hname, List.forall₂_nil_left_iff.1 hnames] at hsplit
    rcases Text.splitOn_eq_nil_cons.1 hsplit with ⟨hpath, -⟩ | ⟨rest, -, hrest⟩
    · exact hpath
    · exact absurd hrest (Text.splitOn_ne_nil '/' rest)
  · rintro rfl
    exact .cons .nil .nil

theorem fitsNames_slash {glob path : List Char} :
    FitsNames ('/' :: glob) path ↔ ∃ rest, path = '/' :: rest ∧ FitsNames glob rest := by
  have hglob : splitOn '/' ('/' :: glob) = [] :: splitOn '/' glob := by simp [splitOn]
  rw [FitsNames, hglob, List.forall₂_cons_left_iff]
  constructor
  · rintro ⟨name, names, hname, hnames, hsplit⟩
    rw [fits_nil.1 hname] at hsplit
    rcases Text.splitOn_eq_nil_cons.1 hsplit with ⟨-, rfl⟩ | ⟨rest, hpath, rfl⟩
    · exact absurd (List.forall₂_nil_right_iff.1 hnames) (Text.splitOn_ne_nil '/' glob)
    · exact ⟨rest, hpath, hnames⟩
  · rintro ⟨rest, rfl, hrest⟩
    exact ⟨[], splitOn '/' rest, .nil, hrest, by simp [splitOn]⟩

theorem fitsNames_char {c : Char} (hstar : c ≠ '*') (hslash : c ≠ '/') {glob path : List Char} :
    FitsNames (c :: glob) path ↔ ∃ rest, path = c :: rest ∧ FitsNames glob rest := by
  obtain ⟨pattern, patterns, hglob⟩ := Text.splitOn_ne_nil_cons '/' glob
  have hcons : splitOn '/' (c :: glob) = (c :: pattern) :: patterns := by
    simp [splitOn, hslash, hglob]
  simp only [FitsNames, hcons, hglob, List.forall₂_cons_left_iff, fits_char hstar]
  constructor
  · rintro ⟨_, names, ⟨name, rfl, hname⟩, hnames, hsplit⟩
    obtain ⟨-, rest, rfl, hrest⟩ := (Text.splitOn_eq_append_cons [c]).1 hsplit
    exact ⟨rest, rfl, name, names, hname, hnames, hrest⟩
  · rintro ⟨rest, rfl, name, names, hname, hnames, hrest⟩
    refine ⟨_, names, ⟨name, rfl, hname⟩, hnames, ?_⟩
    exact (Text.splitOn_eq_append_cons [c]).2 ⟨by simp [Ne.symm hslash], rest, rfl, hrest⟩

theorem fitsNames_star {glob path : List Char} : FitsNames ('*' :: glob) path ↔
    ∃ run rest, path = run ++ rest ∧ '/' ∉ run ∧ FitsNames glob rest := by
  obtain ⟨pattern, patterns, hglob⟩ := Text.splitOn_ne_nil_cons '/' glob
  have hcons : splitOn '/' ('*' :: glob) = ('*' :: pattern) :: patterns := by
    simp [splitOn, hglob]
  simp only [FitsNames, hcons, hglob, List.forall₂_cons_left_iff, fits_star]
  constructor
  · rintro ⟨_, names, ⟨run, name, rfl, hname⟩, hnames, hsplit⟩
    obtain ⟨hrun, rest, rfl, hrest⟩ := (Text.splitOn_eq_append_cons run).1 hsplit
    exact ⟨run, rest, rfl, hrun, name, names, hname, hnames, hrest⟩
  · rintro ⟨run, rest, rfl, hrun, name, names, hname, hnames, hrest⟩
    refine ⟨_, names, ⟨run, name, rfl, hname⟩, hnames, ?_⟩
    exact (Text.splitOn_eq_append_cons run).2 ⟨hrun, rest, rfl, hrest⟩

end Glob

/-! ## Tokens -/

namespace GlobToken

def starOrLiteral (c : Char) : GlobToken := if c = '*' then .star else .literal c

/-- The characters that have a meaning in globs beside the star. A bracket that closes no class and
a comma outside of braces stand for themselves. -/
def isMark (c : Char) : Bool := "?[\x7b\x7d\\".toList.contains c

/-- A glob of single stars and characters that stand for themselves, which does not end in a dot. -/
structure IsStarred (cs : List Char) : Prop where
  plain : ∀ c ∈ cs, isMark c = false
  single : ¬['*', '*'] <:+: cs
  last : cs.getLast? ≠ some '.'

theorem ne_star_of_single {cs : List Char} (h : ¬['*', '*'] <:+: '*' :: cs) :
    ∀ c ∈ cs.head?, c ≠ '*' := by
  rintro c hc rfl
  obtain ⟨rest, rfl⟩ := List.head?_eq_some_iff.1 hc
  exact h ⟨[], rest, rfl⟩

theorem single_of_cons {c : Char} {cs : List Char} (h : ¬['*', '*'] <:+: c :: cs) :
    ¬['*', '*'] <:+: cs := fun hcs => h (hcs.trans (List.suffix_cons c cs).isInfix)

theorem readStar_single {cs : List Char} (h : ∀ c ∈ cs.head?, c ≠ '*') (prev : Option Char)
    (r : Reading) : readStar prev r cs = (some '*', r.push .star, cs) := by
  cases cs with
  | nil => rfl
  | cons c cs => exact readStar_of_ne (h c rfl) prev r cs

theorem readStep_starred {c : Char} {cs : List Char} (hc : isMark c = false)
    (hcs : ¬['*', '*'] <:+: c :: cs) (prev : Option Char) (branch : List GlobToken) :
    readStep prev ⟨branch, []⟩ c cs = .ok (some c, ⟨starOrLiteral c :: branch, []⟩, cs) := by
  have hne : ∀ d, isMark d = true → c ≠ d := by
    rintro d hd rfl
    rw [hc] at hd
    cases hd
  unfold readStep starOrLiteral
  rw [if_neg (hne '?' rfl), if_neg (hne '[' rfl), if_neg (hne '\x7b' rfl), if_neg (hne '\x7d' rfl),
    if_neg (hne '\\' rfl)]
  by_cases hstar : c = '*'
  · subst hstar
    rw [if_pos rfl, if_pos rfl, readStar_single (ne_star_of_single hcs)]
    rfl
  · rw [if_neg hstar, if_neg hstar]
    by_cases hcomma : c = ','
    · subst hcomma
      rfl
    · rw [if_neg hcomma]
      rfl

theorem readSteps_starred : ∀ {n : Nat} {prev : Option Char} {branch : List GlobToken}
    {cs : List Char}, cs.length < n → (∀ c ∈ cs, isMark c = false) → ¬['*', '*'] <:+: cs →
      readSteps n prev ⟨branch, []⟩ cs = .ok ⟨(cs.map starOrLiteral).reverse ++ branch, []⟩
  | 0, _, _, _, hn, _, _ => absurd hn (Nat.not_lt_zero _)
  | _ + 1, _, _, [], _, _, _ => rfl
  | n + 1, prev, branch, c :: cs, hn, hplain, hsingle => by
    obtain ⟨hc, hcs⟩ := List.forall_mem_cons.1 hplain
    rw [readSteps_cons, readStep_starred hc hsingle]
    dsimp only
    rw [readSteps_starred (Nat.lt_of_succ_lt_succ hn) hcs (single_of_cons hsingle)]
    simp

/-- **A glob of single stars is read character by character.** -/
theorem parse_starred {cs : List Char} (h : IsStarred cs) :
    parse cs = .ok (cs.map starOrLiteral) := by
  rw [parse, readSteps_starred (Nat.lt_succ_self _) h.plain h.single]
  simp

/-! ## Bytes and characters -/

theorem slash_mem_encode {cs : List Char} : slash ∈ encode cs ↔ '/' ∈ cs := by
  have hbyte : slash = byteOf '/' := rfl
  rw [encode, List.mem_flatMap]
  constructor
  · rintro ⟨c, hc, hslash⟩
    rw [hbyte] at hslash
    exact Text.eq_of_mem_encode (by decide) hslash ▸ hc
  · intro h
    refine ⟨'/', h, ?_⟩
    rw [Text.encode_ascii (by decide), hbyte]
    exact List.mem_singleton_self _

theorem exists_of_reaches_behind {g cs : List Char} {run mid : List UInt8}
    (hg : ∀ c ∈ g.head?, c ≠ '*') (h : Reaches (g.map starOrLiteral) mid [])
    (hcs : encode cs = run ++ mid) :
    ∃ xs ys, cs = xs ++ ys ∧ encode xs = run ∧ encode ys = mid := by
  cases g with
  | nil =>
    cases h
    exact ⟨cs, [], by simp, by rw [hcs, List.append_nil], rfl⟩
  | cons c g =>
    obtain ⟨next, hfirst, -⟩ := h.cons_split
    rw [starOrLiteral, if_neg (hg c rfl), mem_reach_char] at hfirst
    subst hfirst
    obtain ⟨xs, ys, rfl, hxs, rfl⟩ := Text.exists_of_encode_split hcs
    exact ⟨xs, c :: ys, rfl, hxs, Text.encode_cons c ys⟩

/-! Where the tokens lead to the end, by the first of them. -/

theorem reaches_starred_nil {path : List Char} : Reaches [] (encode path) [] ↔ path = [] := by
  rw [← Text.encode_eq_nil]
  constructor
  · intro h
    generalize encode path = p at h ⊢
    cases h
    rfl
  · intro h
    rw [h]
    exact .nil []

/-- A star takes whole characters, none of which is a slash. -/
theorem reaches_starred_star {g path : List Char} (hg : ∀ c ∈ g.head?, c ≠ '*') :
    Reaches (('*' :: g).map starOrLiteral) (encode path) [] ↔ ∃ run rest,
      path = run ++ rest ∧ '/' ∉ run ∧ Reaches (g.map starOrLiteral) (encode rest) [] := by
  have htoken : starOrLiteral '*' = .star := if_pos rfl
  rw [List.map_cons, htoken]
  constructor
  · intro h
    obtain ⟨mid, hfirst, hbehind⟩ := h.cons_split
    rw [reach] at hfirst
    obtain ⟨bytes, hpath, hbytes⟩ := mem_placesInName.1 hfirst
    obtain ⟨run, rest, rfl, rfl, rfl⟩ := exists_of_reaches_behind hg hbehind hpath
    exact ⟨run, rest, rfl, fun h => hbytes (slash_mem_encode.2 h), hbehind⟩
  · rintro ⟨run, rest, rfl, hrun, hbehind⟩
    have hfirst : encode rest ∈ reach .star (encode (run ++ rest)) := by
      rw [reach, mem_placesInName]
      exact ⟨encode run, Text.encode_append run rest, fun h => hrun (slash_mem_encode.1 h)⟩
    exact .cons hfirst hbehind

theorem reaches_starred_char {c : Char} (hc : c ≠ '*') {g path : List Char} :
    Reaches ((c :: g).map starOrLiteral) (encode path) [] ↔
      ∃ rest, path = c :: rest ∧ Reaches (g.map starOrLiteral) (encode rest) [] := by
  have htoken : starOrLiteral c = .literal c := if_neg hc
  rw [List.map_cons, htoken]
  constructor
  · intro h
    obtain ⟨mid, hfirst, hbehind⟩ := h.cons_split
    have hpath : encode path = [] ++ (String.utf8EncodeChar c ++ mid) := mem_reach_char.1 hfirst
    obtain ⟨none, rest, rfl, hnone, rfl⟩ := Text.exists_of_encode_split hpath
    rw [Text.encode_eq_nil] at hnone
    subst hnone
    exact ⟨rest, rfl, hbehind⟩
  · rintro ⟨rest, rfl, hbehind⟩
    exact .cons (mem_reach_char.2 (Text.encode_cons c rest)) hbehind

/-- **The tokens of single stars lead to the end of the paths that fit name by name.** -/
theorem reaches_starred : ∀ {g path : List Char}, ¬['*', '*'] <:+: g →
    (Reaches (g.map starOrLiteral) (encode path) [] ↔ Glob.FitsNames g path)
  | [], path, _ => reaches_starred_nil.trans Glob.fitsNames_nil.symm
  | c :: g, path, hsingle => by
    have hrest : ∀ rest, Reaches (g.map starOrLiteral) (encode rest) [] ↔ Glob.FitsNames g rest :=
      fun rest => reaches_starred (single_of_cons hsingle)
    by_cases hstar : c = '*'
    · subst hstar
      rw [reaches_starred_star (ne_star_of_single hsingle), Glob.fitsNames_star]
      simp only [hrest]
    · rw [reaches_starred_char hstar]
      simp only [hrest]
      by_cases hslash : c = '/'
      · subst hslash
        exact Glob.fitsNames_slash.symm
      · exact (Glob.fitsNames_char hstar hslash).symm

end GlobToken

namespace Glob

open GlobToken (IsStarred starOrLiteral)

theorem isMatch_starred {pattern : String} (h : IsStarred pattern.toList) {g : Glob}
    (hg : parse pattern = .ok g) (path : List Char) :
    g.isMatch path = true ↔ FitsNames pattern.toList path := by
  have htokens : g.tokens = pattern.toList.map starOrLiteral := by
    have hread := tokens_of_parse hg
    rw [GlobToken.parse_starred h] at hread
    exact (Except.ok.inj hread).symm
  have htoken : ∀ c : Char,
      starOrLiteral c ≠ .leading ∧ (isDot (starOrLiteral c) = true → c = '.') := by
    intro c
    unfold starOrLiteral
    split <;> simp [isDot]
  have hall : g.tokens ≠ [.leading] := by
    rw [htokens]
    intro hall
    obtain ⟨c, -, hc⟩ := List.mem_map.1 (hall ▸ List.mem_singleton_self GlobToken.leading)
    exact (htoken c).1 hc
  have hlast : g.asksLastName = false := by
    have hdot : (g.tokens.getLast?.any isDot) = false := by
      rw [htokens, List.getLast?_map]
      cases hend : pattern.toList.getLast? with
      | none => rfl
      | some c =>
        rw [Option.map_some, Option.any_some, Bool.eq_false_iff]
        intro hc
        exact h.last (by rw [hend, (htoken c).2 hc])
    simp [asksLastName, hdot]
  rw [isMatch_iff hall, hlast, htokens, GlobToken.reaches_starred h.single]
  simp

end Glob

namespace ExemptionEntry

/-- **An entry of globs with single stars covers the paths that fit one of them name by name**: glob
and path have as many names, and each name of the path fits the pattern in its place, so no star
goes beyond a directory. -/
theorem covers_starred {reason : Option String} {globs : List String} {e : ExemptionEntry}
    (he : ofText { reason, paths := globs } = .ok e)
    (hglobs : ∀ glob ∈ globs, GlobToken.IsStarred glob.toList) (p : ProjectPath) :
    e.covers p = true ↔ ∃ glob ∈ globs,
      List.Forall₂ Glob.Fits (splitOn '/' glob.toList) (splitOn '/' p.chars) := by
  obtain ⟨-, hread⟩ := isRead_of_ofText he
  have hdirectories : e.directories = [] := hread.directories
  have hregexps : e.regexps = [] := List.forall₂_nil_left_iff.1 hread.regexps
  have hcovers : e.covers p = Glob.anyMatch e.globs p.chars := by
    simp [covers, hdirectories, hregexps]
  rw [hcovers, Glob.anyMatch, List.any_eq_true]
  constructor
  · rintro ⟨g, hg, hmatch⟩
    obtain ⟨glob, hglob, hparse⟩ := exists_of_forall₂_right hread.globs hg
    exact ⟨glob, hglob, (Glob.isMatch_starred (hglobs glob hglob) hparse p.chars).1 hmatch⟩
  · rintro ⟨glob, hglob, hfits⟩
    obtain ⟨g, hg, hparse⟩ := exists_of_forall₂_left hread.globs hglob
    exact ⟨g, hg, (Glob.isMatch_starred (hglobs glob hglob) hparse p.chars).2 hfits⟩

/-! Two globs, one with a star for a directory and a star inside of a name. -/

def starredText : ExemptionText := { paths := ["é,]", "gen/*/a*.ts"] }

theorem exists_starred : ∃ e, ofText starredText = .ok e := by
  have hread : (ofText starredText).toOption.isSome = true := by decide +kernel
  cases he : ofText starredText with
  | ok e => exact ⟨e, rfl⟩
  | error refusal =>
    rw [he] at hread
    cases hread

theorem isStarred_globs : ∀ glob ∈ starredText.paths, GlobToken.IsStarred glob.toList := by
  have hplain : ∀ glob ∈ starredText.paths, ∀ c ∈ glob.toList, GlobToken.isMark c = false := by
    simp [starredText, GlobToken.isMark]
  have hsingle : ∀ glob ∈ starredText.paths, ¬['*', '*'] <:+: glob.toList := by decide +kernel
  have hlast : ∀ glob ∈ starredText.paths, glob.toList.getLast? ≠ some '.' := by decide +kernel
  exact fun glob hglob => ⟨hplain glob hglob, hsingle glob hglob, hlast glob hglob⟩

theorem covers_starred_sources : ∃ e, ofText starredText = .ok e ∧
    e.covers ⟨"gen/x/api.ts".toList⟩ = true ∧ e.covers ⟨"gen/x/y/api.ts".toList⟩ = false := by
  obtain ⟨e, he⟩ := exists_starred
  have hcovers := covers_starred he isStarred_globs
  refine ⟨e, he, (hcovers _).2 ⟨"gen/*/a*.ts", by decide, ?_⟩,
    Bool.eq_false_iff.2 fun hcovered => ?_⟩
  · have hgen : Glob.Fits "gen".toList "gen".toList :=
      .char (by decide) (.char (by decide) (.char (by decide) .nil))
    have hdir : Glob.Fits "*".toList "x".toList := .star ['x'] .nil
    have hname : Glob.Fits "a*.ts".toList "api.ts".toList :=
      .char (by decide) (.star ['p', 'i'] (.char (by decide) (.char (by decide)
        (.char (by decide) .nil))))
    exact .cons hgen (.cons hdir (.cons hname .nil))
  · obtain ⟨glob, hglob, hfits⟩ := (hcovers _).1 hcovered
    have hnames : ∀ glob ∈ starredText.paths,
        (splitOn '/' glob.toList).length ≠ (splitOn '/' "gen/x/y/api.ts".toList).length := by
      decide +kernel
    exact hnames glob hglob hfits.length_eq

end ExemptionEntry

end Conformance
