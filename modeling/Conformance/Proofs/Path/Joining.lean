import Conformance.Proofs.Path.Normal
import Mathlib.Data.List.Basic
/-!
# What is joined to a directory

A path that is joined to a directory takes the steps of the directory and then its own
(`stepsOf_pieces_join`), and where it never goes up out of where it starts it names something within
the directory, whatever the two look like (`isWithin_join`).  Paths that were listed below a
directory are seen from there as what was joined (`strip?_join`).
-/
namespace Conformance

open Text (splitOn joinWith)

theorem Text.splitOn_append_sep {sep : Char} (ys : List Char) : ∀ xs : List Char,
    splitOn sep (xs ++ sep :: ys) = splitOn sep xs ++ splitOn sep ys
  | [] => by simp [splitOn]
  | c :: xs => by
    rw [List.cons_append, splitOn, splitOn, splitOn_append_sep ys xs]
    split
    · rfl
    · cases hs : splitOn sep xs with
      | nil => exact absurd hs (splitOn_ne_nil sep xs)
      | cons piece pieces => rfl

namespace Path

/-! ## Steps -/

theorem stepsOf_append (ps qs : List (List Char)) :
    stepsOf (ps ++ qs) = stepsOf ps ++ stepsOf qs := by
  simp [stepsOf]

theorem stepsOf_splitOn (p : Path) : stepsOf (splitOn '/' p.chars) = stepsOf p.pieces := by
  unfold pieces leadAndPieces
  split
  · rename_i rest hrest
    rw [hrest, splitOn, if_pos rfl, stepsOf_cons]
    rfl
  · split
    · rename_i pieces hdot
      rw [hdot, stepsOf_cons]
      rfl
    · rfl

theorem foldl_components (p : Path) (rooted : Bool) (stack : List (List Char)) :
    p.components.foldl (stackStep rooted) stack =
      (stepsOf p.pieces).foldl (stackStep rooted) stack := by
  rw [components, List.foldl_append]
  cases p.lead <;> rfl

/-! ## Joining -/

theorem leadAndPieces_of_splitOn {p : Path} (hp : p.isAbsolute = false) {first : List Char}
    {rest : List (List Char)} (h : splitOn '/' p.chars = first :: rest) :
    p.leadAndPieces = if first = ['.'] then (.dot, rest) else (.bare, first :: rest) := by
  unfold leadAndPieces
  split
  · rename_i more hmore
    rw [(isAbsolute_iff p).2 ⟨more, hmore⟩] at hp
    cases hp
  · rw [h]
    split_ifs with hdot
    · subst hdot
      rfl
    · split
      · rename_i heq
        exact absurd (List.cons.inj heq).1 hdot
      · rfl

theorem leadAndPieces_append {front : List Char} (h : front ≠ []) (more : List Char) :
    leadAndPieces ⟨front ++ '/' :: more⟩ =
      (lead ⟨front⟩, pieces ⟨front⟩ ++ splitOn '/' more) := by
  obtain ⟨c, front, rfl⟩ := List.exists_cons_of_ne_nil h
  by_cases hc : c = '/'
  · subst hc
    exact congrArg _ (Text.splitOn_append_sep more front)
  · have hrelative : ∀ tail, isAbsolute ⟨c :: tail⟩ = false := by
      intro tail
      rw [Bool.eq_false_iff, Ne, isAbsolute_iff]
      rintro ⟨rest, hrest⟩
      exact hc (List.cons.inj hrest).1
    obtain ⟨first, rest, hfirst⟩ :=
      List.exists_cons_of_ne_nil (Text.splitOn_ne_nil '/' (c :: front))
    have hsplit :
        splitOn '/' (c :: front ++ '/' :: more) = first :: (rest ++ splitOn '/' more) := by
      rw [Text.splitOn_append_sep, hfirst, List.cons_append]
    have happend : isAbsolute ⟨c :: front ++ '/' :: more⟩ = false := hrelative _
    rw [lead, pieces, leadAndPieces_of_splitOn (hrelative _) hfirst,
      leadAndPieces_of_splitOn happend hsplit]
    split <;> rfl

/-- **What is joined to a directory has its pieces behind those of the directory**, but for idle
ones. -/
theorem pieces_join {dir q : Path} (hdir : dir.chars ≠ []) (hq : q.isAbsolute = false) :
    (dir.join q).lead = dir.lead ∧ ∃ front,
      (dir.join q).pieces = front ++ splitOn '/' q.chars ∧ stepsOf front = stepsOf dir.pieces := by
  have hnonempty : dir.chars.isEmpty = false := by simpa using hdir
  rw [join, hq, hnonempty, Bool.or_self, if_neg Bool.false_ne_true]
  split
  · -- the slash at the end of the directory is the one between the two
    rename_i hlast
    obtain ⟨chars⟩ := dir
    obtain ⟨front, rfl⟩ : ∃ front, chars = front ++ ['/'] :=
      List.getLast?_eq_some_iff.1 (by simpa using hlast)
    have hjoined : (front ++ ['/']) ++ q.chars = front ++ '/' :: q.chars := by simp
    rw [hjoined]
    cases front with
    | nil => exact ⟨rfl, [], rfl, rfl⟩
    | cons c front =>
      have happend := leadAndPieces_append (List.cons_ne_nil c front)
      refine ⟨by rw [lead, lead, happend, happend], pieces ⟨c :: front⟩,
        by rw [pieces, happend], ?_⟩
      rw [pieces.eq_1 ⟨_ ++ ['/']⟩, happend, stepsOf_append]
      simp [splitOn, stepsOf, isIdle]
  · have happend := leadAndPieces_append hdir q.chars
    exact ⟨by rw [lead, happend], dir.pieces, by rw [pieces, happend], rfl⟩

theorem stepsOf_pieces_join (dir : Path) {q : Path} (hq : q.isAbsolute = false) :
    stepsOf (dir.join q).pieces = stepsOf dir.pieces ++ stepsOf q.pieces := by
  by_cases hdir : dir.chars = []
  · rw [join_of_chars_eq_nil q hdir, ← stepsOf_splitOn dir, hdir]
    rfl
  · obtain ⟨-, front, hpieces, hfront⟩ := pieces_join hdir hq
    rw [hpieces, stepsOf_append, hfront, stepsOf_splitOn]

theorem isAbsolute_join_eq (dir : Path) {q : Path} (hq : q.isAbsolute = false) :
    (dir.join q).isAbsolute = dir.isAbsolute := by
  by_cases hdir : dir.chars = []
  · rw [join_of_chars_eq_nil q hdir, hq, isAbsolute, lead, leadAndPieces, hdir]
    rfl
  · rw [isAbsolute, (pieces_join hdir hq).1, isAbsolute]

theorem components_join {dir q : Path} (hdir : dir.isAbsolute = true) (hq : q.isAbsolute = false) :
    (dir.join q).components = dir.components ++ stepsOf (splitOn '/' q.chars) := by
  rw [components, components, stepsOf_pieces_join dir hq, lead_eq_root hdir,
    lead_eq_root (isAbsolute_join hdir q), stepsOf_splitOn, List.append_assoc]

/-! ## Seen from the directory -/

theorem stepsOf_pieces_joinWith {shown : List (List Char)}
    (hfirst : shown ≠ [] → ∃ first more, shown = first :: more ∧ isIdle first = false)
    (hwhole : ∀ piece ∈ shown, '/' ∉ piece) :
    isAbsolute ⟨joinWith '/' shown⟩ = false ∧
      stepsOf (pieces ⟨joinWith '/' shown⟩) = stepsOf shown := by
  by_cases hnil : shown = []
  · subst hnil
    decide
  · have hbare : Lead.bare ≠ .dot := by decide
    have hlp : leadAndPieces ⟨joinWith '/' shown⟩ = (.bare, shown) :=
      leadAndPieces_ofPieces hbare (hfirst hnil) hwhole
    rw [isAbsolute, lead, pieces, hlp]
    exact ⟨rfl, rfl⟩

theorem stepsOf_pieces_joinWith_names {names : List (List Char)} (h : ∀ n ∈ names, IsName n) :
    isAbsolute ⟨joinWith '/' names⟩ = false ∧
      stepsOf (pieces ⟨joinWith '/' names⟩) = names.map .name := by
  have hfirst : names ≠ [] → ∃ first more, names = first :: more ∧ isIdle first = false := by
    intro hne
    obtain ⟨first, more, rfl⟩ := List.exists_cons_of_ne_nil hne
    exact ⟨first, more, rfl, (h first List.mem_cons_self).busy⟩
  rw [← stepsOf_names h]
  exact stepsOf_pieces_joinWith hfirst fun n hn => (h n hn).whole

theorem components_eq_nil_iff (p : Path) : p.components = [] ↔ p.chars = [] := by
  constructor
  · intro h
    by_contra hne
    obtain ⟨c, chars, hchars⟩ := List.exists_cons_of_ne_nil hne
    rw [components, List.append_eq_nil_iff] at h
    by_cases hp : p.isAbsolute = true
    · rw [lead_eq_root hp] at h
      cases h.1
    · have hc : c ≠ '/' := by
        rintro rfl
        exact hp ((isAbsolute_iff p).2 ⟨chars, hchars⟩)
      obtain ⟨first, rest, hfirst⟩ := List.exists_cons_of_ne_nil (Text.splitOn_ne_nil '/' p.chars)
      have hlp := leadAndPieces_of_splitOn (by simpa using hp) hfirst
      split at hlp
      · rw [lead, hlp] at h
        cases h.1
      · rename_i hdot
        -- the first name of a relative path is not empty
        have hnonempty : first ≠ [] := by
          rintro rfl
          rw [hchars, splitOn, if_neg hc] at hfirst
          split at hfirst <;> cases hfirst
        rw [pieces, hlp, stepsOf_cons, if_neg (by simp [isIdle, hnonempty, hdot])] at h
        cases h.2
  · intro h
    rw [components, lead, pieces, leadAndPieces, h]
    rfl

theorem dropSteps_nil (ps : List (List Char)) : dropSteps [] ps = some ps := by
  cases ps <;> rfl

theorem dropSteps_stepsOf (ps : List (List Char)) : ∀ front : List (List Char),
    (dropSteps (stepsOf front) (front ++ ps)).map (·.dropWhile isIdle) =
      some (ps.dropWhile isIdle)
  | [] => congrArg _ (dropSteps_nil ps)
  | piece :: front => by
    have ih := dropSteps_stepsOf ps front
    rw [stepsOf_cons, List.cons_append]
    by_cases hidle : isIdle piece = true
    · rw [if_pos hidle, List.nil_append]
      cases hsteps : stepsOf front with
      | nil =>
        rw [hsteps, dropSteps_nil, Option.map_some] at ih
        rw [dropSteps_nil, Option.map_some, List.dropWhile_cons_of_pos hidle, ih]
      | cons step steps => rw [dropSteps, if_pos hidle, ← hsteps, ih]
    · rw [if_neg hidle, List.singleton_append, dropSteps, if_neg hidle, if_pos rfl, ih]

/-- **Names that are joined to a directory are what is seen from there.** -/
theorem strip?_join {dir : Path} (hdir : dir.chars ≠ []) {names : List (List Char)}
    (hne : names ≠ []) (hnames : ∀ n ∈ names, IsName n) :
    (dir.join ⟨joinWith '/' names⟩).strip? dir = some ⟨joinWith '/' names⟩ := by
  have hbusy : ∀ n ∈ names, isIdle n = false := fun n hn => (hnames n hn).busy
  have hwhole : ∀ n ∈ names, '/' ∉ n := fun n hn => (hnames n hn).whole
  obtain ⟨hrelative, -⟩ := stepsOf_pieces_joinWith_names hnames
  obtain ⟨hlead, front, hpieces, hfront⟩ := pieces_join hdir hrelative
  have hdropped : names.dropWhile isIdle = names := by
    obtain ⟨n, rest, rfl⟩ := List.exists_cons_of_ne_nil hne
    rw [List.dropWhile_cons_of_neg (by simp [hbusy n List.mem_cons_self])]
  have hdrop := dropSteps_stepsOf names front
  rw [hdropped, hfront, ← Text.splitOn_joinWith hne hwhole, ← hpieces,
    Text.splitOn_joinWith hne hwhole] at hdrop
  obtain ⟨rest, hrest, hnames'⟩ := Option.map_eq_some_iff.1 hdrop
  rw [strip?, if_neg (mt (components_eq_nil_iff dir).1 hdir), if_pos hlead, hrest, Option.map_some,
    hnames', dropIdleEnd_of_busy hbusy]

/-! ## Staying inside -/

/-- A path that leads from where it starts to what is below, and nowhere else on the way. -/
structure IsInner (q : Path) : Prop where
  relative : q.isAbsolute = false
  stays : dotDot ∉ resolvedNames false q.components

instance (q : Path) : Decidable q.IsInner :=
  decidable_of_iff (q.isAbsolute = false ∧ dotDot ∉ resolvedNames false q.components)
    ⟨fun h => ⟨h.1, h.2⟩, fun h => ⟨h.relative, h.stays⟩⟩

/-- A path to something in a directory: with both resolved by text, names stand behind the steps of
the directory. -/
def IsWithin (p dir : Path) : Prop :=
  ∃ names, names ≠ [] ∧ p.normalize.components = dir.normalize.components ++ names.map .name

theorem IsWithin.isPrefix {p dir : Path} (h : p.IsWithin dir) :
    dir.normalize.components <+: p.normalize.components := by
  obtain ⟨names, -, h⟩ := h
  exact ⟨_, h.symm⟩

theorem dotDot_mem_foldl {rooted : Bool} : ∀ (steps : List Component) {stack : List (List Char)},
    dotDot ∈ stack → dotDot ∈ steps.foldl (stackStep rooted) stack
  | [], _, h => h
  | c :: steps, stack, h => by
    refine dotDot_mem_foldl steps ?_
    cases c with
    | root => exact h
    | here => exact h
    | name n => exact List.mem_cons_of_mem n h
    | up =>
      cases stack with
      | nil => cases h
      | cons top below =>
        rw [stackStep]
        split
        · exact List.mem_cons_self
        · rename_i htop
          exact List.mem_of_ne_of_mem (Ne.symm htop) h

/-- **A walk that takes no more names off the stack than it put there leaves those below alone.** -/
theorem foldl_stackStep_append {rooted : Bool} {below : List (List Char)} :
    ∀ (steps : List Component) (stack : List (List Char)),
      dotDot ∉ steps.foldl (stackStep false) stack →
      steps.foldl (stackStep rooted) (stack ++ below) =
        steps.foldl (stackStep false) stack ++ below
  | [], _, _ => rfl
  | c :: steps, stack, h => by
    rw [List.foldl_cons] at h
    have hstep : stackStep rooted (stack ++ below) c = stackStep false stack c ++ below := by
      cases c with
      | root => rfl
      | here => rfl
      | name n => rfl
      | up =>
        cases stack with
        | nil => exact absurd (dotDot_mem_foldl steps List.mem_cons_self) h
        | cons top rest =>
          have htop : top ≠ dotDot := by
            rintro rfl
            exact h (dotDot_mem_foldl steps (by simp [stackStep]))
          simp [stackStep, htop]
    rw [List.foldl_cons, List.foldl_cons, hstep, foldl_stackStep_append steps _ h]

theorem IsNormal.components {p : Path} {lead : Lead} {names : List (List Char)}
    (h : p.IsNormal lead names) : p.components = lead.steps ++ stepsOf names := by
  rw [Path.components, h.lead_eq, h.stepsOf_pieces]

theorem IsInner.isName {q : Path} (h : q.IsInner) :
    ∀ n ∈ resolvedNames false q.components, IsName n := by
  intro n hn
  have hnormal := isNormal_resolvedNames q
  rw [h.relative] at hnormal
  exact ⟨hnormal.busy n hn, fun hup => h.stays (hup ▸ hn), hnormal.whole n hn⟩

/-- **Behind the names of a directory stand those of what is joined to it**, where that stays
inside. -/
theorem resolvedNames_join (dir : Path) {q : Path} (h : q.IsInner) :
    resolvedNames dir.isAbsolute (dir.join q).components =
      resolvedNames dir.isAbsolute dir.components ++ resolvedNames false q.components := by
  have hstays := h.stays
  rw [resolvedNames, List.mem_reverse, foldl_components] at hstays
  have hwalk : ∀ below, (stepsOf q.pieces).foldl (stackStep dir.isAbsolute) below =
      (stepsOf q.pieces).foldl (stackStep false) [] ++ below :=
    fun _ => foldl_stackStep_append (stepsOf q.pieces) [] hstays
  simp only [resolvedNames, foldl_components, stepsOf_pieces_join dir h.relative,
    List.foldl_append]
  rw [hwalk, List.reverse_append]

theorem getLast?_stepsOf_join (dir : Path) {q : Path} (hq : q.isAbsolute = false)
    {front : List (List Char)} {last : List Char} (hpieces : (dir.join q).pieces = front ++ [last])
    (hname : IsName last) : (stepsOf q.pieces).getLast? = some (.name last) := by
  have hlast : ∀ more : List (List Char),
      (stepsOf (more ++ [last])).getLast? = some (.name last) := by
    intro more
    rw [stepsOf_append, stepsOf_names (fun n hn => List.mem_singleton.1 hn ▸ hname)]
    simp
  by_cases hdir : dir.chars = []
  · rw [join_of_chars_eq_nil q hdir] at hpieces
    rw [hpieces, hlast]
  · obtain ⟨-, above, hjoined, -⟩ := pieces_join hdir hq
    have hend : (splitOn '/' q.chars).getLast? = some last := by
      rw [← List.getLast?_append_of_ne_nil above (Text.splitOn_ne_nil '/' q.chars), ← hjoined,
        hpieces, List.getLast?_concat]
    obtain ⟨more, hmore⟩ := List.getLast?_eq_some_iff.1 hend
    rw [← stepsOf_splitOn, hmore, hlast]

/-- **A path that stays inside names something within the directory that it is joined to**, where
it ends in a name. -/
theorem isWithin_join (dir : Path) {q : Path} (h : q.IsInner) {front : List (List Char)}
    {last : List Char} (hpieces : (dir.join q).pieces = front ++ [last]) (hname : IsName last) :
    (dir.join q).IsWithin dir := by
  have hsome : resolvedNames false q.components ≠ [] := by
    obtain ⟨steps, hsteps⟩ :=
      List.getLast?_eq_some_iff.1 (getLast?_stepsOf_join dir h.relative hpieces hname)
    rw [resolvedNames, foldl_components, hsteps, List.foldl_append]
    simp [stackStep]
  refine ⟨_, hsome, ?_⟩
  have hjoined := (isNormal_resolvedNames (dir.join q)).components
  rw [isAbsolute_join_eq dir h.relative, resolvedNames_join dir h] at hjoined
  rw [hjoined, (isNormal_resolvedNames dir).components, stepsOf_append, stepsOf_names h.isName,
    List.append_assoc]

end Path

end Conformance
