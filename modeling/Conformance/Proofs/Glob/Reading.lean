import Conformance.Proofs.Glob.Reach
/-!
# What is read of globs

What one step of reading can do is said once (`Reads`).  A text that ends in a slash is read in the
same way whatever stands behind it (`readSteps_append`), and behind it a name begins (`Steady`).  A
slash that is read outside of all groups stays in the glob, as itself or in the double star that
takes its place (`Bears`).  Thus a glob whose text starts at the root matches only paths from the
root (`root_of_isMatch`), and one that goes up behind a whole glob matches only paths that go up
(`goesUp_of_isMatch`).
-/
namespace Conformance

open Conformance.Path (dotDot)
open Text (splitOn)

namespace GlobToken

/-! ## Classes -/

/-- **A class is read up to its bracket, whatever stands behind.** -/
theorem classBody_of_eq_ok {first pending : Bool} {ranges out : List (Char × Char)}
    {cs rest : List Char} (h : classBody first pending ranges cs = .ok (out, rest)) :
    (∃ block, cs = block ++ ']' :: rest) ∧
      ∀ more, classBody first pending ranges (cs ++ more) = .ok (out, rest ++ more) := by
  fun_induction classBody first pending ranges cs with
  | case1 => cases h
  | case2 first pending ranges c cs hend =>
    cases h
    obtain ⟨rfl, hfirst⟩ := (by simpa using hend : c = ']' ∧ first = false)
    refine ⟨⟨[], rfl⟩, fun more => ?_⟩
    rw [List.cons_append, classBody, if_pos hend]
  | case3 first pending ranges c cs hend hhyphen ih =>
    obtain ⟨⟨block, hblock⟩, happend⟩ := ih h
    refine ⟨⟨c :: block, congrArg (c :: ·) hblock⟩, fun more => ?_⟩
    rw [List.cons_append, classBody, if_neg hend, if_pos hhyphen, happend]
  | case4 => cases h
  | case5 first ranges c cs hend wide hrange hhyphen ih =>
    obtain ⟨⟨block, hblock⟩, happend⟩ := ih h
    refine ⟨⟨c :: block, congrArg (c :: ·) hblock⟩, fun more => ?_⟩
    rw [List.cons_append, classBody, if_neg hend, if_neg hhyphen, if_pos rfl, hrange]
    exact happend more
  | case6 first pending ranges c cs hend hhyphen hpending ih =>
    obtain ⟨⟨block, hblock⟩, happend⟩ := ih h
    refine ⟨⟨c :: block, congrArg (c :: ·) hblock⟩, fun more => ?_⟩
    rw [List.cons_append, classBody, if_neg hend, if_neg hhyphen, if_neg hpending, happend]

theorem readClass_cons (c : Char) (cs : List Char) : ∃ negated front body,
    c :: cs = front ++ body ∧ ∀ more, readClass (c :: cs ++ more) =
      (classBody true false [] (body ++ more)).map fun r => (.cls negated r.1, r.2) := by
  by_cases hbang : c = '!'
  · subst hbang
    exact ⟨true, ['!'], cs, rfl, fun _ => rfl⟩
  · by_cases hcaret : c = '^'
    · subst hcaret
      exact ⟨true, ['^'], cs, rfl, fun _ => rfl⟩
    · refine ⟨false, [], c :: cs, rfl, fun more => ?_⟩
      rw [List.cons_append, readClass]
      · rintro d ⟨⟩
        exact hbang rfl
      · rintro d ⟨⟩
        exact hcaret rfl

theorem readClass_of_eq_ok {cs rest : List Char} {t : GlobToken}
    (h : readClass cs = .ok (t, rest)) :
    (∃ negated ranges, (∃ block, cs = block ++ ']' :: rest) ∧ t = .cls negated ranges) ∧
      ∀ more, readClass (cs ++ more) = .ok (t, rest ++ more) := by
  cases cs with
  | nil => cases h
  | cons c cs =>
    obtain ⟨negated, front, body, hsplit, hread⟩ := readClass_cons c cs
    have hbody := hread []
    rw [List.append_nil, List.append_nil, h] at hbody
    cases hclass : classBody true false [] body with
    | error e =>
      rw [hclass] at hbody
      cases hbody
    | ok r =>
      rw [hclass] at hbody
      cases hbody
      obtain ⟨⟨block, hblock⟩, happend⟩ := classBody_of_eq_ok hclass
      refine ⟨⟨negated, r.1, ⟨front ++ block, ?_⟩, rfl⟩, fun more => ?_⟩
      · rw [hsplit, hblock, List.append_assoc]
      · rw [hread, happend]
        rfl

/-! ## Steps -/

def isSpecial (c : Char) : Bool := "?*[\x7b\x7d,\\".toList.contains c

/-- What one step of reading can do: from the last character read, the reading and the text ahead to
those after it. -/
inductive Reads : Option Char → Reading → List Char → Option Char → Reading → List Char → Prop
  | any {prev r cs} : Reads prev r ('?' :: cs) (some '?') (r.push .any) cs
  | star {prev r cs} : Reads prev r ('*' :: cs) (some '*') (r.push .star) cs
  | stars {prev r cs} :
      Reads prev r ('*' :: '*' :: cs) (some '*') ((r.push .star).push .star) cs
  | everything {prev r} : r.branch = [] → Reads prev r ['*', '*'] (some '*') (r.push .leading) []
  | leading {prev r cs} : r.branch = [] →
      Reads prev r ('*' :: '*' :: '/' :: cs) (some '/') (r.push .leading) cs
  | trailing {prev r cs} : (∀ c ∈ cs.head?, c = ',' ∨ c = '\x7d') →
      Reads prev r ('*' :: '*' :: cs) (some '*') (r.double .trailing) cs
  | between {prev r cs} : Reads prev r ('*' :: '*' :: '/' :: cs) (some '/') (r.double .between) cs
  | cls {prev r negated ranges block rest} :
      Reads prev r ('[' :: (block ++ ']' :: rest)) (some ']') (r.push (.cls negated ranges)) rest
  | openGroup {prev r cs} : Reads prev r ('\x7b' :: cs) (some '\x7b') r.openGroup cs
  | closeGroup {prev r r' cs} : r.closeGroup = .ok r' →
      Reads prev r ('\x7d' :: cs) (some '\x7d') r' cs
  | comma {prev r cs} : Reads prev r (',' :: cs) (some ',') r.comma cs
  | escape {prev r c cs} : Reads prev r ('\\' :: c :: cs) (some c) (r.push (.literal c)) cs
  | literal {prev r c cs} : isSpecial c = false →
      Reads prev r (c :: cs) (some c) (r.push (.literal c)) cs

/-- Reads what one character begins: gives the last character read, what has been read and the text
behind. -/
def readStep (prev : Option Char) (r : Reading) (c : Char) (cs : List Char) :
    Except GlobFault (Option Char × Reading × List Char) :=
  if c = '?' then .ok (some c, r.push .any, cs)
  else if c = '*' then .ok (readStar prev r cs)
  else if c = '[' then
    match readClass cs with
    | .error e => .error e
    | .ok (t, rest) => .ok (some ']', r.push t, rest)
  else if c = '\x7b' then .ok (some c, r.openGroup, cs)
  else if c = '\x7d' then
    match r.closeGroup with
    | .error e => .error e
    | .ok r => .ok (some c, r, cs)
  else if c = ',' then .ok (some c, r.comma, cs)
  else if c = '\\' then
    match cs with
    | [] => .error .danglingEscape
    | d :: rest => .ok (some d, r.push (.literal d), rest)
  else .ok (some c, r.push (.literal c), cs)

theorem readSteps_cons (n : Nat) (prev : Option Char) (r : Reading) (c : Char) (cs : List Char) :
    readSteps (n + 1) prev r (c :: cs) =
      match readStep prev r c cs with
      | .error e => .error e
      | .ok (prev, r, rest) => readSteps n prev r rest := by
  conv_lhs => unfold readSteps
  unfold readStep
  split_ifs
  · rfl
  · rfl
  · cases readClass cs <;> rfl
  · rfl
  · cases r.closeGroup <;> rfl
  · rfl
  · cases cs <;> rfl
  · rfl

theorem readSteps_cons_eq_ok {n : Nat} {prev : Option Char} {r last : Reading} {c : Char}
    {cs : List Char} (h : readSteps (n + 1) prev r (c :: cs) = .ok last) :
    ∃ prev' r' rest, readStep prev r c cs = .ok (prev', r', rest) ∧
      readSteps n prev' r' rest = .ok last := by
  rw [readSteps_cons] at h
  split at h
  · cases h
  · exact ⟨_, _, _, ‹_›, h⟩

theorem reads_readStar (prev : Option Char) (r : Reading) (cs : List Char) :
    Reads prev r ('*' :: cs) (readStar prev r cs).1 (readStar prev r cs).2.1
      (readStar prev r cs).2.2 := by
  unfold readStar
  split
  · dsimp only
    split_ifs with hempty hplain
    · have hnil : r.branch = [] := List.isEmpty_iff.1 hempty
      split
      · exact .everything hnil
      · exact .leading hnil
      · exact .stars
    · exact .stars
    · split
      · exact .trailing fun _ hc => (nomatch hc)
      · exact .between
      · split
        · rename_i hgroup
          refine .trailing fun d hd => ?_
          cases hd
          simp at hgroup
          exact hgroup.2
        · exact .stars
  · exact .star

theorem reads_of_readStep {prev prev' : Option Char} {r r' : Reading} {c : Char}
    {cs rest : List Char} (h : readStep prev r c cs = .ok (prev', r', rest)) :
    Reads prev r (c :: cs) prev' r' rest := by
  unfold readStep at h
  split_ifs at h with hany hstar hcls hopen hclose hcomma hescape
  · cases h
    exact hany ▸ .any
  · subst hstar
    have hread := reads_readStar prev r cs
    rwa [Except.ok.inj h] at hread
  · subst hcls
    split at h
    · cases h
    · rename_i hread
      cases h
      obtain ⟨_, _, ⟨_, rfl⟩, rfl⟩ := (readClass_of_eq_ok hread).1
      exact .cls
  · cases h
    exact hopen ▸ .openGroup
  · subst hclose
    split at h
    · cases h
    · rename_i hread
      cases h
      exact .closeGroup hread
  · cases h
    exact hcomma ▸ .comma
  · subst hescape
    split at h
    · cases h
    · cases h
      exact .escape
  · cases h
    have hplain : isSpecial c = false := by
      simp [isSpecial, hany, hstar, hcls, hopen, hclose, hcomma, hescape]
    exact .literal hplain

theorem Reads.taken {prev prev' : Option Char} {r r' : Reading} {cs rest : List Char}
    (hr : Reads prev r cs prev' r' rest) : ∃ block d, cs = block ++ d :: rest ∧ prev' = some d := by
  cases hr with
  | any | star | openGroup | closeGroup | comma | literal => exact ⟨[], _, rfl, rfl⟩
  | stars | everything | trailing => exact ⟨['*'], _, rfl, rfl⟩
  | leading | between => exact ⟨['*', '*'], _, rfl, rfl⟩
  | escape => exact ⟨['\\'], _, rfl, rfl⟩
  | cls => exact ⟨'[' :: _, ']', rfl, rfl⟩

/-! ## What stands behind -/

def EndsInSlash (cs : List Char) : Prop := ∀ c ∈ cs.getLast?, c = '/'

theorem EndsInSlash.behind {block rest : List Char} {d : Char}
    (h : EndsInSlash (block ++ d :: rest)) : EndsInSlash rest ∧ (rest = [] → d = '/') := by
  cases rest with
  | nil => exact ⟨fun _ hc => (nomatch hc), fun _ => h d (by simp)⟩
  | cons c rest =>
    refine ⟨fun x hx => h x ?_, fun hnil => absurd hnil (List.cons_ne_nil c rest)⟩
    simpa [List.getLast?_append, List.getLast?_cons_cons] using hx

theorem readStar_of_ne {c : Char} (hc : c ≠ '*') (prev : Option Char) (r : Reading)
    (cs : List Char) : readStar prev r (c :: cs) = (some '*', r.push .star, c :: cs) := by
  unfold readStar
  split
  · rename_i h
    exact absurd (List.cons.inj h).1 hc
  · rfl

/-- Of what stands behind a double star only the first character counts. -/
theorem readStar_star {c : Char} (hc : c ≠ '/') (prev : Option Char) (r : Reading)
    (cs : List Char) : readStar prev r ('*' :: c :: cs) =
      (some '*', (readStar prev r ['*', c]).2.1, c :: cs) := by
  unfold readStar
  dsimp only
  split_ifs
  · simp [hc]
  · rfl
  · simp only
    split_ifs <;> rfl

theorem readStar_append {cs : List Char} (hend : EndsInSlash ('*' :: cs)) (prev : Option Char)
    (r : Reading) (more : List Char) : readStar prev r (cs ++ more) =
      ((readStar prev r cs).1, (readStar prev r cs).2.1, (readStar prev r cs).2.2 ++ more) := by
  cases cs with
  | nil => exact absurd (hend '*' rfl) (by decide)
  | cons c cs =>
    by_cases hstar : c = '*'
    · subst hstar
      cases cs with
      | nil => exact absurd (hend '*' rfl) (by decide)
      | cons c cs =>
        by_cases hslash : c = '/'
        · subst hslash
          unfold readStar
          dsimp only [List.cons_append]
          split_ifs <;> rfl
        · rw [List.cons_append, List.cons_append, readStar_star hslash prev r (cs ++ more),
            readStar_star hslash prev r cs]
          rfl
    · rw [List.cons_append, readStar_of_ne hstar, readStar_of_ne hstar]
      rfl

/-- **A step does not look beyond a slash at the end.** -/
theorem readStep_append {prev prev' : Option Char} {r r' : Reading} {c : Char}
    {cs rest : List Char} (h : readStep prev r c cs = .ok (prev', r', rest))
    (hend : EndsInSlash (c :: cs)) (more : List Char) :
    readStep prev r c (cs ++ more) = .ok (prev', r', rest ++ more) := by
  unfold readStep at h ⊢
  split_ifs at h ⊢ with hany hstar hcls hopen hclose hcomma hescape
  · cases h
    rfl
  · subst hstar
    rw [readStar_append hend, Except.ok.inj h]
  · split at h
    · cases h
    · rename_i hread
      cases h
      rw [(readClass_of_eq_ok hread).2 more]
  · cases h
    rfl
  · split at h
    · cases h
    · cases h
      rfl
  · cases h
    rfl
  · split at h
    · cases h
    · cases h
      rfl
  · cases h
    rfl

/-- **A text that ends in a slash is read in the same way whatever stands behind it.** -/
theorem readSteps_append (more : List Char) {last : Reading} : ∀ {n m : Nat} {prev : Option Char}
    {r : Reading} {front : List Char}, EndsInSlash front → front.length < n →
    (front ++ more).length < m → readSteps n prev r front = .ok last →
    ∃ k prev', more.length < k ∧ readSteps m prev r (front ++ more) = readSteps k prev' last more
  | 0, _, _, _, _, _, hn, _, _ => absurd hn (Nat.not_lt_zero _)
  | _, 0, _, _, _, _, _, hm, _ => absurd hm (Nat.not_lt_zero _)
  | n + 1, m + 1, prev, r, [], _, _, hm, hread => by
    cases hread
    exact ⟨m + 1, prev, hm, rfl⟩
  | n + 1, m + 1, prev, r, c :: front, hend, hn, hm, hread => by
    obtain ⟨prev', r', rest, hstep, hread⟩ := readSteps_cons_eq_ok hread
    obtain ⟨block, d, htaken, -⟩ := (reads_of_readStep hstep).taken
    have hlength := congrArg List.length htaken
    simp only [List.length_append, List.length_cons] at hlength hn hm
    -- both readings take the same step, and what it leaves still ends in a slash
    rw [List.cons_append, readSteps_cons, readStep_append hstep hend]
    refine readSteps_append more (htaken ▸ hend).behind.1 (by omega) ?_ hread
    rw [List.length_append]
    omega

/-! ## Slashes that stay -/

def outermost (branch : List GlobToken) :
    List (List GlobToken × List (List GlobToken)) → List GlobToken
  | [] => branch
  | (outer, _) :: groups => outermost outer groups

/-- Outside of all groups, a token that begins with a slash stands on others. -/
def Bears (base : List GlobToken) (r : Reading) : Prop :=
  ∃ top t, outermost r.branch r.groups = top ++ t :: base ∧ beginsWithSlash t = true

namespace Bears

variable {base : List GlobToken} {r : Reading}

theorem push (h : Bears base r) (t : GlobToken) : Bears base (r.push t) := by
  obtain ⟨top, s, hout, hs⟩ := h
  obtain ⟨branch, groups⟩ := r
  cases groups with
  | nil => exact ⟨t :: top, s, congrArg (t :: ·) hout, hs⟩
  | cons group groups => exact ⟨top, s, hout, hs⟩

theorem comma (h : Bears base r) : Bears base r.comma := by
  unfold Reading.comma
  split
  · exact h.push _
  · rename_i hgroups
    obtain ⟨top, s, hout, hs⟩ := h
    rw [hgroups] at hout
    exact ⟨top, s, hout, hs⟩

theorem closeGroup (h : Bears base r) {r' : Reading} (hr : r.closeGroup = .ok r') :
    Bears base r' := by
  unfold Reading.closeGroup at hr
  split at hr
  · cases hr
  · rename_i outer done groups hgroups
    cases hr
    have houter : Bears base ⟨outer, groups⟩ := by
      obtain ⟨top, s, hout, hs⟩ := h
      rw [hgroups] at hout
      exact ⟨top, s, hout, hs⟩
    exact houter.push _

theorem double (h : Bears base r) {t : GlobToken} (ht : beginsWithSlash t = true) :
    Bears base (r.double t) := by
  unfold Reading.double
  split
  · exact h
  · exact h
  · obtain ⟨top, s, hout, hs⟩ := h
    obtain ⟨branch, groups⟩ := r
    cases groups with
    | cons group groups => exact ⟨top, s, hout, hs⟩
    | nil =>
      cases hout
      cases top with
      | nil => exact ⟨[], t, rfl, ht⟩
      | cons y top => exact ⟨t :: top, s, rfl, hs⟩

theorem reads (h : Bears base r) {prev prev' : Option Char} {r' : Reading} {cs rest : List Char}
    (hr : Reads prev r cs prev' r' rest) : Bears base r' := by
  cases hr with
  | any | star | everything | leading | cls | escape | literal => exact h.push _
  | stars => exact (h.push _).push _
  | trailing | between => exact h.double rfl
  | openGroup => exact h
  | closeGroup hclose => exact h.closeGroup hclose
  | comma => exact h.comma

/-- **A slash outside of all groups stays** to the end of a reading. -/
theorem readSteps : ∀ {n : Nat} {prev : Option Char} {r last : Reading} {cs : List Char},
    Bears base r → GlobToken.readSteps n prev r cs = .ok last → Bears base last
  | 0, _, _, _, _, h, hread => by
    cases hread
    exact h
  | _ + 1, _, _, _, [], h, hread => by
    cases hread
    exact h
  | _ + 1, _, _, _, _ :: _, h, hread => by
    obtain ⟨_, _, _, hstep, hrest⟩ := readSteps_cons_eq_ok hread
    exact (h.reads (reads_of_readStep hstep)).readSteps hrest

end Bears

theorem parse_eq_ok {cs : List Char} {tokens : List GlobToken} (h : parse cs = .ok tokens) :
    ∃ last, readSteps (cs.length + 1) none {} cs = .ok last ∧ last.groups = [] ∧
      tokens = last.branch.reverse := by
  unfold parse at h
  split at h
  · cases h
  · rename_i last hread
    split at h
    · rename_i hgroups
      cases h
      exact ⟨last, hread, hgroups, rfl⟩
    · cases h

theorem readSteps_literal {c : Char} (hc : isSpecial c = false) (n : Nat) (prev : Option Char)
    (r : Reading) (cs : List Char) :
    readSteps (n + 1) prev r (c :: cs) = readSteps n (some c) (r.push (.literal c)) cs := by
  have hne : ∀ d, isSpecial d = true → c ≠ d := by
    rintro d hd rfl
    rw [hc] at hd
    cases hd
  conv_lhs => unfold readSteps
  rw [if_neg (hne '?' rfl), if_neg (hne '*' rfl), if_neg (hne '[' rfl), if_neg (hne '\x7b' rfl),
    if_neg (hne '\x7d' rfl), if_neg (hne ',' rfl), if_neg (hne '\\' rfl)]

theorem parse_root {cs : List Char} {tokens : List GlobToken} (h : parse ('/' :: cs) = .ok tokens) :
    ∃ t ts, tokens = t :: ts ∧ beginsWithSlash t = true := by
  obtain ⟨last, hread, hgroups, rfl⟩ := parse_eq_ok h
  rw [List.length_cons, readSteps_literal rfl] at hread
  have hslash : Bears [] (Reading.push {} (.literal '/')) := ⟨[], .literal '/', rfl, rfl⟩
  obtain ⟨top, t, hout, ht⟩ := hslash.readSteps hread
  rw [hgroups, outermost] at hout
  exact ⟨t, top.reverse, by rw [hout]; simp, ht⟩

/-! ## Where names begin -/

/-- Behind a slash a name begins; a double star in front is alone in its branch, and one at the end
is the last of it. -/
structure Steady (prev : Option Char) (r : Reading) (cs : List Char) : Prop where
  opens : (∀ c ∈ prev, c = '/') → opensName r.branch = true
  alone : ∀ ts, r.branch = .leading :: ts → ts = []
  last : ∀ ts, r.branch = .trailing :: ts → ∀ c ∈ cs.head?, c = ',' ∨ c = '\x7d'

namespace Steady

variable {prev prev' : Option Char} {r r' : Reading} {cs rest : List Char}

theorem start (cs : List Char) : Steady none {} cs :=
  ⟨fun _ => rfl, fun _ h => (nomatch h), fun _ h => (nomatch h)⟩

theorem push {t : GlobToken} (hleading : t ≠ .leading) (htrailing : t ≠ .trailing)
    (hopens : (∀ c ∈ prev, c = '/') → opensName (t :: r.branch) = true) :
    Steady prev (r.push t) cs :=
  ⟨hopens, fun _ hts => absurd (List.cons.inj hts).1 hleading,
    fun _ hts => absurd (List.cons.inj hts).1 htrailing⟩

theorem between (h : Steady prev r ('*' :: cs)) : Steady (some '/') (r.double .between) rest := by
  unfold Reading.double
  split
  · rename_i ts hbranch
    refine ⟨fun _ => by rw [hbranch, h.alone ts hbranch]; rfl, h.alone, fun _ hts => ?_⟩
    rw [hbranch] at hts
    cases hts
  · -- behind a double star at the end of a branch no star is read
    rename_i ts hbranch
    exact absurd (h.last ts hbranch '*' rfl) (by decide)
  · exact ⟨fun _ => rfl, fun _ hts => (nomatch hts), fun _ hts => (nomatch hts)⟩

theorem trailing (h : Steady prev r cs) (hrest : ∀ c ∈ rest.head?, c = ',' ∨ c = '\x7d') :
    Steady (some '*') (r.double .trailing) rest := by
  refine ⟨fun hslash => absurd (hslash '*' rfl) (by decide), ?_, fun _ _ => hrest⟩
  unfold Reading.double
  split
  · exact h.alone
  · exact h.alone
  · exact fun _ hts => (nomatch hts)

theorem reads (h : Steady prev r cs) (hr : Reads prev r cs prev' r' rest) :
    Steady prev' r' rest := by
  have hother : ∀ {r : Reading} {t : GlobToken} {c : Char}, t ≠ .leading → t ≠ .trailing →
      c ≠ '/' → Steady (some c) (r.push t) rest :=
    fun hleading htrailing hc => .push hleading htrailing fun hslash => absurd (hslash _ rfl) hc
  cases hr with
  | any | star | stars | cls => exact hother (by simp) (by simp) (by decide)
  | everything hempty | leading hempty =>
    refine ⟨fun _ => ?_, fun ts hts => ?_, fun _ hts => (nomatch hts)⟩
    · rw [Reading.push, hempty]
      rfl
    · rw [Reading.push, hempty] at hts
      exact (List.cons.inj hts).2.symm
  | trailing hrest => exact h.trailing hrest
  | between => exact h.between
  | openGroup =>
    exact ⟨fun _ => rfl, fun _ hts => (nomatch hts), fun _ hts => (nomatch hts)⟩
  | closeGroup hclose =>
    unfold Reading.closeGroup at hclose
    split at hclose
    · cases hclose
    · cases hclose
      exact hother (r := ⟨_, _⟩) (by simp) (by simp) (by decide)
  | comma =>
    unfold Reading.comma
    split
    · exact hother (by simp) (by simp) (by decide)
    · exact ⟨fun _ => rfl, fun _ hts => (nomatch hts), fun _ hts => (nomatch hts)⟩
  | escape | literal =>
    refine .push (by simp) (by simp) fun hslash => ?_
    rw [hslash _ rfl]
    rfl

theorem readSteps {last : Reading} : ∀ {n : Nat} {prev : Option Char} {r : Reading}
    {cs : List Char}, Steady prev r cs → EndsInSlash cs → (cs = [] → ∀ c ∈ prev, c = '/') →
    cs.length < n → GlobToken.readSteps n prev r cs = .ok last → opensName last.branch = true
  | 0, _, _, _, _, _, _, hn, _ => absurd hn (Nat.not_lt_zero _)
  | _ + 1, _, _, [], h, _, hprev, _, hread => by
    cases hread
    exact h.opens (hprev rfl)
  | n + 1, _, _, c :: cs, h, hend, _, hn, hread => by
    obtain ⟨_, _, rest, hstep, hread⟩ := readSteps_cons_eq_ok hread
    have hreads := reads_of_readStep hstep
    obtain ⟨block, d, htaken, rfl⟩ := hreads.taken
    obtain ⟨hrest, hd⟩ := (htaken ▸ hend).behind
    refine (h.reads hreads).readSteps hrest (fun hnil x hx => ?_) ?_ hread
    · rw [← Option.some.inj hx]
      exact hd hnil
    · have hlength := congrArg List.length htaken
      simp only [List.length_append, List.length_cons] at hlength hn
      omega

end Steady

/-- **A glob that goes up, behind a text that is a glob of its own, goes up.** -/
theorem parse_goesUp {front tail : List Char} {inner tokens : List GlobToken}
    (h : parse (front ++ '.' :: '.' :: '/' :: tail) = .ok tokens)
    (hfront : parse front = .ok inner) (hend : EndsInSlash front) :
    ∃ t after, tokens = inner ++ .literal '.' :: .literal '.' :: t :: after ∧
      opensName inner.reverse = true ∧ beginsWithSlash t = true := by
  obtain ⟨last, hread, hgroups, rfl⟩ := parse_eq_ok h
  obtain ⟨r, hinner, houtside, rfl⟩ := parse_eq_ok hfront
  have hopens := (Steady.start front).readSteps hend (fun _ _ hc => (nomatch hc))
    (Nat.lt_succ_self _) hinner
  obtain ⟨m, prev, hm, hbehind⟩ :=
    readSteps_append ('.' :: '.' :: '/' :: tail) hend (Nat.lt_succ_self _) (Nat.lt_succ_self _) hinner
  obtain ⟨n, rfl⟩ : ∃ n, m = n + 3 := ⟨m - 3, by simp at hm; omega⟩
  rw [hbehind, readSteps_literal rfl, readSteps_literal rfl, readSteps_literal rfl] at hread
  have hslash : Bears (.literal '.' :: .literal '.' :: r.branch)
      (((r.push (.literal '.')).push (.literal '.')).push (.literal '/')) := by
    refine ⟨[], .literal '/', ?_, rfl⟩
    simp only [Reading.push, houtside, outermost, List.nil_append]
  obtain ⟨top, t, hout, ht⟩ := hslash.readSteps hread
  rw [hgroups, outermost] at hout
  exact ⟨t, top.reverse, by rw [hout]; simp, by rwa [List.reverse_reverse], ht⟩

end GlobToken

namespace Glob

variable {pattern : String} {g : Glob} {path : List Char}

theorem tokens_of_parse (h : parse pattern = .ok g) :
    GlobToken.parse pattern.toList = .ok g.tokens := by
  unfold parse at h
  split at h
  · rename_i tokens hread
    cases h
    exact hread
  · cases h

theorem root_of_isMatch (h : parse pattern = .ok g) {cs : List Char}
    (hpattern : pattern.toList = '/' :: cs) (hmatch : g.isMatch path = true) :
    ∃ rest, path = '/' :: rest := by
  have hread := tokens_of_parse h
  rw [hpattern] at hread
  obtain ⟨t, ts, htokens, ht⟩ := GlobToken.parse_root hread
  have hall : g.tokens ≠ [.leading] := by
    rw [htokens]
    rintro hall
    cases (List.cons.inj hall).1
    cases ht
  exact GlobToken.exists_of_reaches ht (htokens ▸ reaches_of_isMatch hmatch hall)

/-- **A glob that goes up, behind a text that is a glob of its own, matches only paths that go
up.** -/
theorem goesUp_of_isMatch (h : parse pattern = .ok g) {front tail : List Char}
    (hpattern : pattern.toList = front ++ '.' :: '.' :: '/' :: tail) {inner : List GlobToken}
    (hfront : GlobToken.parse front = .ok inner) (hend : GlobToken.EndsInSlash front)
    (hmatch : g.isMatch path = true) : dotDot ∈ splitOn '/' path := by
  have hread := tokens_of_parse h
  rw [hpattern] at hread
  obtain ⟨t, after, htokens, hopens, ht⟩ := GlobToken.parse_goesUp hread hfront hend
  have hall : g.tokens ≠ [.leading] := by
    rw [htokens]
    intro hall
    have hlength := congrArg List.length hall
    simp at hlength
    omega
  have hreaches := reaches_of_isMatch hmatch hall
  rw [htokens, ← List.reverse_reverse inner] at hreaches
  exact GlobToken.goesUp_of_reaches hopens ht hreaches

end Glob

end Conformance
