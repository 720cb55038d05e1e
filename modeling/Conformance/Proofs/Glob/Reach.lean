import Conformance.Glob.Match
import Conformance.Proofs.Path.Joining
/-!
# What globs can match

The tokens of a glob take a path from place to place, each from a place that the one before it has
reached, to the end of the path (`Reaches`).  What a place is behind is told by the token that
reached it: behind a slash a name begins, so a glob with a double dot between slashes matches only
paths with such a name (`goesUp_of_reaches`), and one with a slash in front only paths with a slash
in front.
-/
namespace Conformance

/-! ## The bytes of a text -/

namespace Text

def encode (cs : List Char) : List UInt8 := cs.flatMap String.utf8EncodeChar

def byteOf (c : Char) : UInt8 := UInt8.ofNat c.toNat

theorem encode_ascii {c : Char} (h : c.toNat < 128) : String.utf8EncodeChar c = [byteOf c] := by
  have hv : c.val.toNat ≤ 127 := Nat.le_of_lt_succ h
  simp only [String.utf8EncodeChar, if_pos hv]
  rfl

/-- **A byte of an ASCII character stands for that character alone.** -/
theorem eq_of_mem_encode {c d : Char} (hd : d.toNat < 128)
    (h : byteOf d ∈ String.utf8EncodeChar c) : c = d := by
  have hbyte : ∀ n, byteOf d = UInt8.ofNat n → n % 256 = d.toNat := by
    intro n hn
    have hnat := congrArg UInt8.toNat hn
    simp only [byteOf, UInt8.toNat_ofNat'] at hnat
    omega
  have hnat : c.val.toNat = d.toNat := by
    revert h
    -- the bytes of a longer character are all above those of ASCII
    fun_cases String.utf8EncodeChar c with
    | case1 hshort =>
      intro h
      have := hbyte _ (List.mem_singleton.1 h)
      omega
    | case2 =>
      simp only [List.mem_cons, List.not_mem_nil, or_false]
      rintro (h | h) <;> have := hbyte _ h <;> omega
    | case3 =>
      simp only [List.mem_cons, List.not_mem_nil, or_false]
      rintro (h | h | h) <;> have := hbyte _ h <;> omega
    | case4 =>
      simp only [List.mem_cons, List.not_mem_nil, or_false]
      rintro (h | h | h | h) <;> have := hbyte _ h <;> omega
  exact Char.ext (UInt32.toNat_inj.1 hnat)

theorem encode_cons_ascii {c : Char} (h : c.toNat < 128) (cs : List Char) :
    encode (c :: cs) = byteOf c :: encode cs := by
  rw [encode, List.flatMap_cons, encode_ascii h, ← encode, List.singleton_append]

theorem encode_cons (c : Char) (cs : List Char) :
    encode (c :: cs) = String.utf8EncodeChar c ++ encode cs := List.flatMap_cons

theorem encode_append (xs ys : List Char) : encode (xs ++ ys) = encode xs ++ encode ys :=
  List.flatMap_append

theorem encode_eq_nil {cs : List Char} : encode cs = [] ↔ cs = [] := by
  cases cs with
  | nil => simp [encode]
  | cons c cs => simp [encode_cons, String.utf8EncodeChar_ne_nil]

theorem eq_of_encode_append {c d : Char} {x y : List UInt8}
    (h : String.utf8EncodeChar c ++ x = String.utf8EncodeChar d ++ y) : c = d := by
  have hdecode : ∀ (e : Char) (z : List UInt8),
      (String.utf8EncodeChar e ++ z).toByteArray.utf8DecodeChar? 0 = some e := by
    intro e z
    rw [List.toByteArray_append]
    exact ByteArray.utf8DecodeChar?_utf8EncodeChar_append
  have hc := hdecode c x
  rw [h, hdecode d y] at hc
  exact (Option.some.inj hc).symm

/-- **Where the bytes of a character stand, the text has the character**: no character ends inside
of another, for only the first byte of a character can begin one. -/
theorem exists_of_encode_split {c : Char} {front back : List UInt8} : ∀ {cs : List Char},
    encode cs = front ++ (String.utf8EncodeChar c ++ back) →
      ∃ xs ys, cs = xs ++ c :: ys ∧ encode xs = front ∧ encode ys = back
  | [], h => by
    rw [encode, List.flatMap_nil] at h
    simp [String.utf8EncodeChar_ne_nil] at h
  | d :: cs, h => by
    rw [encode_cons] at h
    rcases List.append_eq_append_iff.1 h with ⟨rest, hfront, hrest⟩ | ⟨rest, hd, hrest⟩
    · obtain ⟨xs, ys, rfl, rfl, rfl⟩ := exists_of_encode_split hrest
      exact ⟨d :: xs, ys, rfl, by rw [hfront, encode_cons], rfl⟩
    · cases rest with
      | nil =>
        have hnext : encode cs = [] ++ (String.utf8EncodeChar c ++ back) := hrest.symm
        obtain ⟨xs, ys, rfl, hxs, rfl⟩ := exists_of_encode_split hnext
        refine ⟨d :: xs, ys, rfl, ?_, rfl⟩
        rw [encode_cons, hxs, hd]
        simp
      | cons b rest =>
        -- the first byte of `c` is one of `d`, so it is the first one of `d`
        obtain ⟨b', bytes, hbytes⟩ :=
          List.exists_cons_of_ne_nil (String.utf8EncodeChar_ne_nil (c := c))
        have hb : b' = b := by
          rw [hbytes] at hrest
          exact (List.cons.inj hrest).1
        have hfirst : b.IsUTF8FirstByte := by
          have hzero := UInt8.isUTF8FirstByte_getElem_zero_utf8EncodeChar (c := c)
          simp only [hbytes, List.getElem_cons_zero] at hzero
          exact hb ▸ hzero
        have hlt : front.length < (String.utf8EncodeChar d).length := by
          rw [hd]
          simp
        have hbyte : (String.utf8EncodeChar d)[front.length].IsUTF8FirstByte := by
          simpa only [hd, List.getElem_append_right (Nat.le_refl _), Nat.sub_self,
            List.getElem_cons_zero] using hfirst
        have hfront := UInt8.isUTF8FirstByte_getElem_utf8EncodeChar.1 hbyte
        obtain rfl := List.eq_nil_of_length_eq_zero hfront
        rw [List.nil_append] at hd
        rw [← hd] at hrest
        cases eq_of_encode_append hrest
        exact ⟨[], cs, rfl, rfl, (List.append_cancel_left hrest).symm⟩

theorem exists_of_encode_eq {d : Char} (hd : d.toNat < 128) {front back : List UInt8}
    {cs : List Char} (h : encode cs = front ++ byteOf d :: back) :
    ∃ xs ys, cs = xs ++ d :: ys ∧ encode xs = front ∧ encode ys = back := by
  apply exists_of_encode_split
  rw [h, encode_ascii hd]
  rfl

theorem exists_of_encode_eq_cons {d : Char} (hd : d.toNat < 128) {back : List UInt8}
    {cs : List Char} (h : encode cs = byteOf d :: back) :
    ∃ ys, cs = d :: ys ∧ encode ys = back := by
  have hfront : encode cs = [] ++ byteOf d :: back := h
  obtain ⟨xs, ys, rfl, hxs, rfl⟩ := exists_of_encode_eq hd hfront
  cases xs with
  | nil => exact ⟨ys, rfl, rfl⟩
  | cons c xs => simp [encode, String.utf8EncodeChar_ne_nil] at hxs

end Text

open Conformance.Path (dotDot)
open Text (encode byteOf exists_of_encode_eq exists_of_encode_eq_cons splitOn)

namespace GlobToken

/-! ## From place to place -/

/-- Tokens in a row take a place to another. -/
inductive Reaches : List GlobToken → List UInt8 → List UInt8 → Prop
  | nil (p : List UInt8) : Reaches [] p p
  | cons {t : GlobToken} {ts : List GlobToken} {p q r : List UInt8} :
      q ∈ reach t p → Reaches ts q r → Reaches (t :: ts) p r

theorem mem_of_mem_distinct {q : List UInt8} : ∀ {ps : List (List UInt8)}, q ∈ distinct ps → q ∈ ps
  | [], h => h
  | p :: ps, h => by
    rw [distinct] at h
    split at h
    · exact List.mem_cons_of_mem p (mem_of_mem_distinct h)
    · rcases List.mem_cons.1 h with rfl | h
      · exact List.mem_cons_self
      · exact List.mem_cons_of_mem p (mem_of_mem_distinct h)

/-- Places of one path are told apart by their length, so none is lost. -/
theorem mem_distinct {w q : List UInt8} : ∀ {ps : List (List UInt8)}, (∀ p ∈ ps, p <:+ w) →
    (q ∈ distinct ps ↔ q ∈ ps)
  | [], _ => Iff.rfl
  | p :: ps, hps => by
    obtain ⟨hp, htail⟩ := List.forall_mem_cons.1 hps
    have hrest := mem_distinct (q := q) htail
    rw [distinct]
    split
    · rename_i hthere
      rw [hrest, List.mem_cons, iff_or_self]
      rintro rfl
      obtain ⟨same, hsame, hlength⟩ := List.any_eq_true.1 hthere
      have hmem := mem_of_mem_distinct hsame
      have hsize : same.length = q.length := beq_iff_eq.1 hlength
      have hsuffix : same <:+ q := List.suffix_of_suffix_length_le (htail same hmem) hp hsize.le
      exact hsuffix.eq_of_length hsize ▸ hmem
    · rw [List.mem_cons, List.mem_cons, hrest]

theorem Reaches.cons_split {t : GlobToken} {ts : List GlobToken} {p q : List UInt8}
    (h : Reaches (t :: ts) p q) : ∃ mid, mid ∈ reach t p ∧ Reaches ts mid q := by
  cases h with
  | cons hreach hrest => exact ⟨_, hreach, hrest⟩

theorem Reaches.split {xs ys : List GlobToken} {p q : List UInt8} (h : Reaches (xs ++ ys) p q) :
    ∃ mid, Reaches xs p mid ∧ Reaches ys mid q := by
  induction xs generalizing p with
  | nil => exact ⟨p, .nil p, h⟩
  | cons t xs ih =>
    cases h with
    | cons hreach hrest =>
      obtain ⟨mid, hfront, hback⟩ := ih hrest
      exact ⟨mid, .cons hreach hfront, hback⟩

theorem suffix_of_mem_placesFrom {q : List UInt8} : ∀ {p : List UInt8}, q ∈ placesFrom p → q <:+ p
  | [], h => by simp_all [placesFrom]
  | b :: p, h => by
    rw [placesFrom] at h
    rcases List.mem_cons.1 h with rfl | h
    · exact List.suffix_refl _
    · exact (suffix_of_mem_placesFrom h).trans (List.suffix_cons b p)

theorem mem_placesInName {q : List UInt8} : ∀ {p : List UInt8},
    q ∈ placesInName p ↔ ∃ run, p = run ++ q ∧ slash ∉ run
  | [] => by simp [placesInName]
  | b :: p => by
    rw [placesInName]
    constructor
    · intro h
      rcases List.mem_cons.1 h with rfl | h
      · exact ⟨[], rfl, by simp⟩
      · split at h
        · cases h
        · rename_i hb
          obtain ⟨run, rfl, hrun⟩ := mem_placesInName.1 h
          exact ⟨b :: run, rfl, by simp [hrun, Ne.symm hb]⟩
    · rintro ⟨run, hp, hrun⟩
      cases run with
      | nil => exact hp ▸ List.mem_cons_self
      | cons b' run =>
        obtain ⟨rfl, rfl⟩ := List.cons.inj hp
        have hb : b ≠ slash := fun hb => hrun (by simp [hb])
        rw [if_neg hb]
        exact List.mem_cons_of_mem _
          (mem_placesInName.2 ⟨run, rfl, fun h => hrun (List.mem_cons_of_mem b h)⟩)

theorem suffix_of_mem_placesAfterSlash {q : List UInt8} : ∀ {p : List UInt8},
    q ∈ placesAfterSlash p → slash :: q <:+ p
  | [], h => by cases h
  | b :: p, h => by
    rw [placesAfterSlash] at h
    split at h
    · rename_i hb
      subst hb
      rcases List.mem_cons.1 h with rfl | h
      · exact List.suffix_refl _
      · exact (suffix_of_mem_placesAfterSlash h).trans (List.suffix_cons slash p)
    · exact (suffix_of_mem_placesAfterSlash h).trans (List.suffix_cons b p)

theorem mem_reach_char {c : Char} {p q : List UInt8} :
    q ∈ reach (.literal c) p ↔ p = String.utf8EncodeChar c ++ q := by
  rw [reach]
  by_cases hp : String.utf8EncodeChar c <+: p
  · obtain ⟨rest, rfl⟩ := hp
    simp only [List.isPrefixOf_iff_prefix, List.prefix_append, if_true, List.drop_left,
      List.mem_singleton, List.append_cancel_left_eq]
    exact eq_comm
  · have hnone : (String.utf8EncodeChar c).isPrefixOf p = false := by
      simpa [← List.isPrefixOf_iff_prefix] using hp
    simp only [hnone, Bool.false_eq_true, if_false, List.not_mem_nil, false_iff]
    rintro rfl
    exact hp (List.prefix_append _ _)

theorem mem_reach_literal {c : Char} (hc : c.toNat < 128) {p q : List UInt8} :
    q ∈ reach (.literal c) p ↔ p = byteOf c :: q := by
  rw [mem_reach_char, Text.encode_ascii hc]
  rfl

theorem mem_reach_trailing {p q : List UInt8} :
    q ∈ reach .trailing p ↔ ∃ rest, p = slash :: rest ∧ q ∈ placesFrom rest := by
  cases p with
  | nil => simp [reach]
  | cons b p => by_cases hb : b = slash <;> simp [reach, hb]

theorem mem_reach_between {p q : List UInt8} : q ∈ reach .between p ↔
    ∃ rest, p = slash :: rest ∧ (q = rest ∨ q ∈ placesAfterSlash rest) := by
  cases p with
  | nil => simp [reach]
  | cons b p => by_cases hb : b = slash <;> simp [reach, hb]

mutual

theorem suffix_of_mem_reach {q : List UInt8} : ∀ {t : GlobToken} {p : List UInt8},
    q ∈ reach t p → q <:+ p
  | .literal c, p, h => by
    rw [reach] at h
    split at h
    · rw [List.mem_singleton.1 h]
      exact List.drop_suffix _ p
    · cases h
  | .any, p, h => by
    cases p with
    | nil => simp [reach] at h
    | cons b p =>
      rw [reach] at h
      split at h
      · cases h
      · rw [List.mem_singleton.1 h]
        exact List.suffix_cons b p
  | .star, p, h => by
    rw [reach] at h
    obtain ⟨run, rfl, -⟩ := mem_placesInName.1 h
    exact List.suffix_append run q
  | .leading, p, h => by
    rw [reach] at h
    rcases List.mem_cons.1 h with rfl | h
    · exact List.suffix_refl _
    · exact (List.suffix_cons _ q).trans (suffix_of_mem_placesAfterSlash h)
  | .trailing, p, h => by
    obtain ⟨rest, rfl, h⟩ := mem_reach_trailing.1 h
    exact (suffix_of_mem_placesFrom h).trans (List.suffix_cons slash rest)
  | .between, p, h => by
    obtain ⟨rest, rfl, rfl | h⟩ := mem_reach_between.1 h
    · exact List.suffix_cons slash q
    · exact ((List.suffix_cons _ q).trans (suffix_of_mem_placesAfterSlash h)).trans
        (List.suffix_cons slash rest)
  | .cls negated ranges, p, h => by
    cases p with
    | nil => simp [reach] at h
    | cons b p =>
      rw [reach] at h
      split at h
      · rw [List.mem_singleton.1 h]
        exact List.suffix_cons b p
      · cases h
  | .oneOf branches, p, h => by
    rw [reach] at h
    split at h
    · exact List.mem_singleton.1 h ▸ List.suffix_refl p
    · exact suffix_of_mem_reachAny h

theorem suffix_of_mem_reachAny {q : List UInt8} : ∀ {bs : List (List GlobToken)} {p : List UInt8},
    q ∈ reachAny bs p → q <:+ p
  | [], p, h => by simp [reachAny] at h
  | b :: bs, p, h => by
    rw [reachAny] at h
    rcases List.mem_append.1 h with h | h
    · split at h
      · cases h
      · obtain ⟨p', hp', hsuffix⟩ := suffix_of_mem_reachAll h
        rw [List.mem_singleton.1 hp'] at hsuffix
        exact hsuffix
    · exact suffix_of_mem_reachAny h

theorem suffix_of_mem_reachAll {q : List UInt8} : ∀ {ts : List GlobToken} {ps : List (List UInt8)},
    q ∈ reachAll ts ps → ∃ p ∈ ps, q <:+ p
  | [], ps, h => ⟨q, by simpa [reachAll] using h, List.suffix_refl q⟩
  | t :: ts, ps, h => by
    rw [reachAll] at h
    obtain ⟨mid, hmid, hsuffix⟩ := suffix_of_mem_reachAll h
    obtain ⟨p, hp, hreach⟩ := List.mem_flatMap.1 (mem_of_mem_distinct hmid)
    exact ⟨p, hp, hsuffix.trans (suffix_of_mem_reach hreach)⟩

end

/-- **What tokens in a row can reach, they reach one after the other.** -/
theorem mem_reachAll {w q : List UInt8} : ∀ {ts : List GlobToken} {ps : List (List UInt8)},
    (∀ p ∈ ps, p <:+ w) → (q ∈ reachAll ts ps ↔ ∃ p ∈ ps, Reaches ts p q)
  | [], ps, _ => by
    rw [reachAll]
    constructor
    · intro h
      exact ⟨q, h, .nil q⟩
    · rintro ⟨p, hp, hreach⟩
      cases hreach
      exact hp
  | t :: ts, ps, hps => by
    have hnext : ∀ mid ∈ ps.flatMap (reach t), mid <:+ w := by
      intro mid hmid
      obtain ⟨p, hp, hreach⟩ := List.mem_flatMap.1 hmid
      exact (suffix_of_mem_reach hreach).trans (hps p hp)
    have hdistinct : ∀ mid ∈ distinct (ps.flatMap (reach t)), mid <:+ w :=
      fun mid hmid => hnext mid (mem_of_mem_distinct hmid)
    rw [reachAll, mem_reachAll hdistinct]
    simp only [mem_distinct hnext, List.mem_flatMap]
    constructor
    · rintro ⟨mid, ⟨p, hp, hreach⟩, hrest⟩
      exact ⟨p, hp, .cons hreach hrest⟩
    · rintro ⟨p, hp, hreach⟩
      obtain ⟨mid, hfirst, hrest⟩ := hreach.cons_split
      exact ⟨mid, ⟨p, hp, hfirst⟩, hrest⟩

theorem Reaches.suffix {ts : List GlobToken} {p q : List UInt8} (h : Reaches ts p q) : q <:+ p := by
  induction h with
  | nil p => exact List.suffix_refl p
  | cons hreach _ ih => exact ih.trans (suffix_of_mem_reach hreach)

/-! ## Behind slashes and in front of them -/

/-- Does a token take nothing but what has a slash in front? -/
def beginsWithSlash : GlobToken → Bool
  | .literal c => c == '/'
  | .trailing => true
  | .between => true
  | _ => false

/-- Does a name of the path begin behind these tokens? They are given the last one first. -/
def opensName : List GlobToken → Bool
  | [] => true
  | [.leading] => true
  | .literal c :: _ => c == '/'
  | .between :: _ => true
  | _ => false

theorem exists_of_beginsWithSlash {t : GlobToken} (ht : beginsWithSlash t = true)
    {p q : List UInt8} (h : q ∈ reach t p) : ∃ rest, p = slash :: rest := by
  cases t with
  | literal c =>
    cases (beq_iff_eq.1 ht : c = '/')
    exact ⟨q, (mem_reach_literal (by decide)).1 h⟩
  | trailing =>
    obtain ⟨rest, hp, -⟩ := mem_reach_trailing.1 h
    exact ⟨rest, hp⟩
  | between =>
    obtain ⟨rest, hp, -⟩ := mem_reach_between.1 h
    exact ⟨rest, hp⟩
  | any | star | leading | cls | oneOf => cases ht

theorem Reaches.singleton {t : GlobToken} {p q : List UInt8} (h : Reaches [t] p q) :
    q ∈ reach t p := by
  obtain ⟨mid, hreach, hrest⟩ := h.cons_split
  cases hrest
  exact hreach

/-- **Where a name begins, there is a slash before it**, or nothing. -/
theorem Reaches.opens {ts : List GlobToken} (hts : opensName ts = true) {p q : List UInt8}
    (h : Reaches ts.reverse p q) : q = p ∨ slash :: q <:+ p := by
  have hlast : ∀ {t : GlobToken} {ts : List GlobToken}, Reaches (t :: ts).reverse p q →
      ∃ mid, mid <:+ p ∧ q ∈ reach t mid := by
    intro t ts h
    rw [List.reverse_cons] at h
    obtain ⟨mid, hfront, hend⟩ := h.split
    exact ⟨mid, hfront.suffix, hend.singleton⟩
  unfold opensName at hts
  split at hts
  · cases h
    exact .inl rfl
  · have hreach := h.singleton
    rw [reach] at hreach
    rcases List.mem_cons.1 hreach with rfl | hmem
    · exact .inl rfl
    · exact .inr (suffix_of_mem_placesAfterSlash hmem)
  · rename_i c _
    cases beq_iff_eq.1 hts
    obtain ⟨mid, hmid, hreach⟩ := hlast h
    rw [(mem_reach_literal (by decide)).1 hreach] at hmid
    exact .inr hmid
  · obtain ⟨mid, hmid, hreach⟩ := hlast h
    obtain ⟨rest, rfl, rfl | hmem⟩ := mem_reach_between.1 hreach
    · exact .inr hmid
    · exact .inr ((suffix_of_mem_placesAfterSlash hmem).trans
        ((List.suffix_cons slash rest).trans hmid))
  · cases hts

theorem splitOn_of_encode {cs : List Char} {rest : List UInt8}
    (h : encode cs = byteOf '.' :: byteOf '.' :: slash :: rest) :
    ∃ more, splitOn '/' cs = dotDot :: more := by
  obtain ⟨ys, rfl, hys⟩ := exists_of_encode_eq_cons (by decide) h
  obtain ⟨zs, rfl, hzs⟩ := exists_of_encode_eq_cons (by decide) hys
  have hslash : encode zs = byteOf '/' :: rest := hzs
  obtain ⟨more, rfl, -⟩ := exists_of_encode_eq_cons (by decide) hslash
  exact ⟨_, Text.splitOn_append_sep more dotDot⟩

/-- **A glob with a double dot between slashes takes only paths that go up.** -/
theorem goesUp_of_reaches {front back : List GlobToken} {t : GlobToken}
    (hfront : opensName front = true) (ht : beginsWithSlash t = true) {cs : List Char}
    {q : List UInt8}
    (h : Reaches (front.reverse ++ .literal '.' :: .literal '.' :: t :: back) (encode cs) q) :
    dotDot ∈ splitOn '/' cs := by
  obtain ⟨mid, hstart, hend⟩ := h.split
  obtain ⟨rest, hmid⟩ : ∃ rest, mid = byteOf '.' :: byteOf '.' :: slash :: rest := by
    obtain ⟨_, hfirst, hend⟩ := hend.cons_split
    obtain ⟨_, hsecond, hend⟩ := hend.cons_split
    obtain ⟨_, hthird, -⟩ := hend.cons_split
    obtain ⟨rest, hrest⟩ := exists_of_beginsWithSlash ht hthird
    rw [(mem_reach_literal (by decide)).1 hfirst, (mem_reach_literal (by decide)).1 hsecond, hrest]
    exact ⟨rest, rfl⟩
  rcases hstart.opens hfront with hwhole | hbehind
  · obtain ⟨more, hmore⟩ := splitOn_of_encode (hwhole.symm.trans hmid)
    rw [hmore]
    exact List.mem_cons_self
  · obtain ⟨above, habove⟩ := hbehind
    have hslash : encode cs = above ++ byteOf '/' :: mid := habove.symm
    obtain ⟨xs, ys, rfl, -, hys⟩ := exists_of_encode_eq (by decide) hslash
    obtain ⟨more, hmore⟩ := splitOn_of_encode (hys.trans hmid)
    rw [Text.splitOn_append_sep, hmore]
    simp

theorem exists_of_reaches {t : GlobToken} {ts : List GlobToken} (ht : beginsWithSlash t = true)
    {cs : List Char} {q : List UInt8} (h : Reaches (t :: ts) (encode cs) q) :
    ∃ rest, cs = '/' :: rest := by
  obtain ⟨_, hreach, -⟩ := h.cons_split
  obtain ⟨rest, hrest⟩ := exists_of_beginsWithSlash ht hreach
  have hslash : encode cs = byteOf '/' :: rest := hrest
  obtain ⟨ys, hcs, -⟩ := exists_of_encode_eq_cons (by decide) hslash
  exact ⟨ys, hcs⟩

/-! ## Everything below a plain path -/

theorem nil_mem_placesFrom : ∀ p : List UInt8, [] ∈ placesFrom p
  | [] => List.mem_cons_self
  | _ :: p => List.mem_cons_of_mem _ (nil_mem_placesFrom p)

def plainBelow (cs : List Char) : List GlobToken := cs.map .literal ++ [.trailing]

theorem prefix_of_reaches {q : List UInt8} : ∀ {cs path : List Char}, (∀ c ∈ cs, c.toNat < 128) →
    Reaches (plainBelow cs) (encode path) q → cs ++ ['/'] <+: path
  | [], path, _, h => by
    obtain ⟨rest, rfl⟩ := exists_of_reaches rfl h
    exact ⟨rest, rfl⟩
  | c :: cs, path, hcs, h => by
    obtain ⟨hc, hcs⟩ := List.forall_mem_cons.1 hcs
    obtain ⟨mid, hfirst, hrest⟩ := h.cons_split
    obtain ⟨path, rfl, rfl⟩ := exists_of_encode_eq_cons hc ((mem_reach_literal hc).1 hfirst)
    exact List.cons_prefix_cons.2 ⟨rfl, prefix_of_reaches hcs hrest⟩

theorem reaches_plainBelow (rest : List Char) : ∀ {cs : List Char}, (∀ c ∈ cs, c.toNat < 128) →
    Reaches (plainBelow cs) (encode (cs ++ '/' :: rest)) []
  | [], _ => by
    have hend : [] ∈ reach .trailing (encode ('/' :: rest)) :=
      mem_reach_trailing.2 ⟨encode rest, Text.encode_cons_ascii (by decide) rest,
        nil_mem_placesFrom _⟩
    exact .cons hend (.nil [])
  | c :: cs, hcs => by
    obtain ⟨hc, hcs⟩ := List.forall_mem_cons.1 hcs
    have hfirst : encode (cs ++ '/' :: rest) ∈
        reach (.literal c) (encode (c :: (cs ++ '/' :: rest))) :=
      (mem_reach_literal hc).2 (Text.encode_cons_ascii hc _)
    exact .cons hfirst (reaches_plainBelow rest hcs)

end GlobToken

namespace Glob

open GlobToken (Reaches)

/-- **A glob matches a path that its tokens take to the end**, unless it asks for the last name of a
path that has none. -/
theorem isMatch_iff {g : Glob} {path : List Char} (hall : g.tokens ≠ [.leading]) :
    g.isMatch path = true ↔
      (g.asksLastName = true → hasLastName path = true) ∧ Reaches g.tokens (encode path) [] := by
  have hreach : (GlobToken.reachAll g.tokens [encode path]).any (·.isEmpty) = true ↔
      Reaches g.tokens (encode path) [] := by
    have hplace : ∀ p ∈ [encode path], p <:+ encode path := by simp
    have hend : [] ∈ GlobToken.reachAll g.tokens [encode path] ↔
        ∃ p ∈ [encode path], Reaches g.tokens p [] := GlobToken.mem_reachAll hplace
    simpa using hend
  unfold isMatch
  split
  · rename_i htokens
    exact absurd htokens hall
  · rw [Bool.and_eq_true, ← encode, hreach]
    cases g.asksLastName <;> simp

theorem reaches_of_isMatch {g : Glob} {path : List Char} (h : g.isMatch path = true)
    (hall : g.tokens ≠ [.leading]) : Reaches g.tokens (encode path) [] :=
  ((isMatch_iff hall).1 h).2

/-- **The glob for everything below a plain path matches what is behind that path and a slash.** -/
theorem isMatch_plainBelow {cs path : List Char} (hcs : ∀ c ∈ cs, c.toNat < 128) :
    isMatch ⟨GlobToken.plainBelow cs⟩ path = true ↔ cs ++ ['/'] <+: path := by
  have hall : (⟨GlobToken.plainBelow cs⟩ : Glob).tokens ≠ [.leading] := by
    cases cs <;> simp [GlobToken.plainBelow]
  have hlast : asksLastName ⟨GlobToken.plainBelow cs⟩ = false := by
    simp [asksLastName, GlobToken.plainBelow, isDot]
  rw [isMatch_iff hall, hlast]
  constructor
  · rintro ⟨-, hreach⟩
    exact GlobToken.prefix_of_reaches hcs hreach
  · rintro ⟨rest, rfl⟩
    refine ⟨fun h => (nomatch h), ?_⟩
    rw [List.append_assoc, List.singleton_append]
    exact GlobToken.reaches_plainBelow rest hcs

end Glob

end Conformance
