import Conformance.Proofs.Json.Apart
/-!
# What a reader passes over

Reading a value passes over a stretch of the text (`Passes`): one that is well apart if what
follows is, and in which the keys are counted right. The readers of lists, objects and values are
followed turn by turn (`itemsSteps_passes`, `entriesSteps_passes`, `readValue_passes`).

So a text that is read as an object is well apart (`lexed_of_entries`), and the keys with one
bracket around them are those of its entries, in order (`keysOf_of_entries`).
-/
namespace Conformance.Json

/-! ## Stretches of a text -/

/-- A stretch of a text, from `cs` with `d` brackets open to `rest` with `d'`: it is well apart if
what follows is, and `names` are the keys in it that have `d` brackets around them; no key in it
has fewer. -/
structure Passes (d : Nat) (cs : List Char) (d' : Nat) (rest : List Char) (names : List String) :
    Prop where
  lexed : Lexed rest → Lexed cs
  keys : ∀ offset, ∃ ks offset', keysFrom offset d 0 cs = ks ++ keysFrom offset' d' 0 rest ∧
    (∀ k ∈ ks, d ≤ k.depth) ∧ (ks.filter (·.depth = d)).map (·.name) = names

namespace Passes

variable {d d' : Nat} {cs mid rest : List Char} {names names' : List String}

theorem refl (d : Nat) (cs : List Char) : Passes d cs d cs [] :=
  ⟨id, fun offset => ⟨[], offset, rfl, by simp, rfl⟩⟩

theorem trans (h : Passes d cs d mid names) (h' : Passes d mid d' rest names') :
    Passes d cs d' rest (names ++ names') := by
  refine ⟨fun hrest => h.lexed (h'.lexed hrest), fun offset => ?_⟩
  obtain ⟨ks, offset', hks, hdepth, hnames⟩ := h.keys offset
  obtain ⟨ks', offset'', hks', hdepth', hnames'⟩ := h'.keys offset'
  refine ⟨ks ++ ks', offset'', by rw [hks, hks', List.append_assoc], fun k hk => ?_, ?_⟩
  · exact (List.mem_append.1 hk).elim (hdepth k) (hdepth' k)
  · rw [List.filter_append, List.map_append, hnames, hnames']

theorem char {c : Char} (hquote : c ≠ '"') (hbackslash : c ≠ '\\')
    (hblank : Text.isBlank c = true → isGap c = true) (hdepth : ∀ d, depthBehind d c = d)
    (h : Passes d cs d' rest names) : Passes d (c :: cs) d' rest names := by
  refine ⟨fun hrest => .char hquote hbackslash hblank (h.lexed hrest), fun offset => ?_⟩
  rw [keysFrom_char offset d hquote, hdepth]
  exact h.keys _

theorem gaps (h : Passes d (skipGaps cs) d' rest names) : Passes d cs d' rest names :=
  of_skipGaps (P := fun cs => Passes d cs d' rest names) h fun _ _ hc hcs =>
    hcs.char (ne_of_isGap hc).1 (ne_of_isGap hc).2.1 (fun _ => hc) (ne_of_isGap hc).2.2

theorem bracket {c : Char} (hc : c = '[' ∨ c = '\x7b') (h : Passes (d + 1) cs d rest names) :
    Passes d (c :: cs) d rest [] := by
  have hplain : c ≠ '"' ∧ c ≠ '\\' ∧ Text.isBlank c = false := by
    rcases hc with rfl | rfl <;> decide
  refine ⟨fun hrest => .char hplain.1 hplain.2.1 ?_ (h.lexed hrest), fun offset => ?_⟩
  · rw [hplain.2.2]
    exact fun h => by cases h
  · rw [keysFrom_char offset d hplain.1, depthBehind, if_pos hc]
    obtain ⟨ks, offset', hks, hdepth, -⟩ := h.keys (offset + c.utf8Size)
    refine ⟨ks, offset', hks, fun k hk => Nat.le_of_succ_le (hdepth k hk), ?_⟩
    rw [List.map_eq_nil_iff, List.filter_eq_nil_iff]
    intro k hk
    have := hdepth k hk
    simp only [decide_eq_true_eq]
    omega

theorem close {c : Char} (hc : c = ']' ∨ c = '\x7d') : Passes (d + 1) (c :: cs) d cs [] := by
  have hplain : c ≠ '"' ∧ c ≠ '\\' ∧ Text.isBlank c = false ∧ ¬(c = '[' ∨ c = '\x7b') := by
    rcases hc with rfl | rfl <;> decide
  refine ⟨.char hplain.1 hplain.2.1 ?_, fun offset => ⟨[], offset + c.utf8Size, ?_, by simp, rfl⟩⟩
  · rw [hplain.2.2.1]
    exact fun h => by cases h
  · rw [keysFrom_char offset _ hplain.1, depthBehind, if_neg hplain.2.2.2, if_pos hc]
    rfl

theorem string {name : List Char} (h : readString cs = .ok (name, rest)) (hparted : Parted rest) :
    Passes d ('"' :: cs) d rest (if ColonNext rest then [String.ofList name] else []) := by
  refine ⟨.string h hparted, fun offset => ?_⟩
  obtain ⟨written, rfl, -⟩ := readString_eq_ok h
  refine ⟨_, _, keysFrom_string offset d h, fun k hk => ?_, ?_⟩
  · split at hk
    · rw [List.mem_singleton.1 hk]
    · cases hk
  · split
    · simp
    · rfl

end Passes

/-! ## Readers -/

/-- A character that stands in no string and is neither a bracket nor a blank but a gap. -/
structure IsQuiet (c : Char) : Prop where
  quote : c ≠ '"'
  backslash : c ≠ '\\'
  blank : Text.isBlank c = true → isGap c = true
  depth : ∀ d, depthBehind d c = d

def IsPlainCode (n : Nat) : Prop := (48 ≤ n ∧ n ≤ 57) ∨ (97 ≤ n ∧ n ≤ 122)

instance (n : Nat) : Decidable (IsPlainCode n) := inferInstanceAs (Decidable (_ ∨ _))

theorem isQuiet_of_isPlainCode {c : Char} (h : IsPlainCode c.toNat) : IsQuiet c := by
  have hne : ∀ d : Char, ¬IsPlainCode d.toNat → c ≠ d := by
    rintro d hd rfl
    exact hd h
  refine ⟨hne _ (by decide), hne _ (by decide), fun hblank => ?_, fun d => ?_⟩
  · simp only [Text.isBlank, Bool.or_eq_true, Bool.and_eq_true, decide_eq_true_eq,
      beq_iff_eq] at hblank
    unfold IsPlainCode at h
    omega
  · rw [depthBehind, if_neg, if_neg] <;> rintro (h | h) <;> exact hne _ (by decide) h

theorem isQuiet_of_isNumeral {c : Char} (h : isNumeral c = true) : IsQuiet c := by
  by_cases hdigit : isDigit c = true
  · refine isQuiet_of_isPlainCode (.inl ?_)
    simp only [isDigit, Bool.and_eq_true, decide_eq_true_eq] at hdigit
    exact hdigit
  · simp only [isNumeral, hdigit, Bool.false_or, Bool.or_eq_true, beq_iff_eq] at h
    rcases h with (((rfl | rfl) | rfl) | rfl) | rfl <;>
      exact ⟨by decide, by decide, by decide, fun _ => rfl⟩

theorem Passes.quiet {d d' : Nat} {c : Char} {cs rest : List Char} {names : List String}
    (hc : IsQuiet c) (h : Passes d cs d' rest names) : Passes d (c :: cs) d' rest names :=
  h.char hc.quote hc.backslash hc.blank hc.depth

theorem Passes.quiets {d : Nat} {seg : List Char} (hseg : ∀ c ∈ seg, IsQuiet c)
    (rest : List Char) : Passes d (seg ++ rest) d rest [] := by
  induction seg with
  | nil => exact .refl d rest
  | cons c seg ih =>
    exact (ih fun c hc => hseg c (List.mem_cons_of_mem _ hc)).quiet (hseg c List.mem_cons_self)

theorem Passes.takes {d : Nat} {cs rest : List Char} (h : Takes cs rest) :
    Passes d cs d rest [] := by
  obtain ⟨seg, rfl, hseg⟩ := h
  exact .quiets (fun c hc => isQuiet_of_isNumeral (hseg c hc)) rest

theorem isQuiet_comma : IsQuiet ',' := ⟨by decide, by decide, by decide, fun _ => rfl⟩

theorem isQuiet_colon : IsQuiet ':' := ⟨by decide, by decide, by decide, fun _ => rfl⟩

theorem not_colonNext {c : Char} (hgap : isGap c = false) (hc : c ≠ ':') (cs : List Char) :
    ¬ColonNext (c :: cs) := by
  intro h
  rw [ColonNext, skipGaps, List.dropWhile_cons_of_neg (by simp [hgap])] at h
  exact hc (Option.some.inj h)

theorem endsValue_of_comma {cs mid : List Char} (h : skipGaps cs = ',' :: mid) : EndsValue cs := by
  refine .of_skipGaps ?_
  rw [h]
  exact ⟨parted_of_comma mid, not_colonNext rfl (by decide) mid⟩

theorem endsValue_of_close {cs rest : List Char} {c : Char} (hc : c = ']' ∨ c = '\x7d')
    (h : skipGaps cs = c :: rest) (hrest : EndsValue rest) : EndsValue cs := by
  refine .of_skipGaps ?_
  rw [h]
  rcases hc with rfl | rfl
  · exact ⟨hrest.parted.cons (by decide), not_colonNext rfl (by decide) rest⟩
  · exact ⟨hrest.parted.cons (by decide), not_colonNext rfl (by decide) rest⟩

/-! ### Turns -/

theorem nextItem_over {first : Bool} {cs rest : List Char}
    (h : nextItem first cs = .ok (.over rest)) : skipGaps cs = ']' :: rest := by
  unfold nextItem at h
  split at h
  · cases h
  · rename_i hgaps
    cases h
    exact hgaps
  · split at h
    · cases h
    · split at h
      · split at h <;> cases h
      · cases h

theorem nextItem_more {first : Bool} {cs rest : List Char}
    (h : nextItem first cs = .ok (.more rest)) : (first = true ∧ rest = skipGaps cs) ∨
      ∃ mid, skipGaps cs = ',' :: mid ∧ rest = skipGaps mid := by
  unfold nextItem at h
  split at h
  · cases h
  · cases h
  · rename_i c mid _ hgaps
    split at h
    · rename_i hfirst
      cases h
      exact .inl ⟨hfirst, hgaps.symm⟩
    · split at h
      · rename_i hc
        refine .inr ⟨mid, by rw [hgaps, hc], ?_⟩
        split at h
        · cases h
        · cases h
        · cases h
          rfl
      · cases h

theorem nextKey_over {first : Bool} {cs rest : List Char}
    (h : nextKey first cs = .ok (.over rest)) : skipGaps cs = '\x7d' :: rest := by
  unfold nextKey at h
  split at h
  · cases h
  · rename_i hgaps
    cases h
    exact hgaps
  · split at h
    · split at h <;> cases h
    · split at h
      · split at h <;> cases h
      · cases h

theorem nextKey_more {first : Bool} {cs rest : List Char}
    (h : nextKey first cs = .ok (.more rest)) : (first = true ∧ skipGaps cs = '"' :: rest) ∨
      ∃ mid, skipGaps cs = ',' :: mid ∧ skipGaps mid = '"' :: rest := by
  unfold nextKey at h
  split at h
  · cases h
  · cases h
  · rename_i c mid _ hgaps
    split at h
    · rename_i hfirst
      split at h
      · rename_i hc
        cases h
        exact .inl ⟨hfirst, by rw [hgaps, hc]⟩
      · cases h
    · split at h
      · rename_i hc
        split at h
        · cases h
        · rename_i hquote
          cases h
          exact .inr ⟨mid, by rw [hgaps, hc], hquote⟩
        · cases h
        · cases h
      · cases h

theorem colon_eq_ok {cs rest : List Char} (h : colon cs = .ok rest) :
    skipGaps cs = ':' :: rest := by
  unfold colon at h
  split at h
  · cases h
  · rename_i hgaps
    cases h
    exact hgaps
  · cases h

/-! ### Lists, objects and values -/

/-- A reader of values passes over values: over no key that has just the brackets around it that are
open. -/
def PassesOver {α : Type} (read : List Char → Except Stop (α × List Char)) : Prop :=
  ∀ {d : Nat} {cs rest : List Char} {a : α}, read cs = .ok (a, rest) → EndsValue rest →
    Passes d cs d rest []

section

variable {α : Type} {read : List Char → Except Stop (α × List Char)}

theorem itemsSteps_succ {n : Nat} {first : Bool} {cs rest : List Char} {as : List α}
    (h : itemsSteps read (n + 1) first cs = .ok (as, rest)) :
    nextItem first cs = .ok (.over rest) ∨
      ∃ item behind a as', nextItem first cs = .ok (.more item) ∧ read item = .ok (a, behind) ∧
        itemsSteps read n false behind = .ok (as', rest) := by
  rw [itemsSteps] at h
  split at h
  · cases h
  · rename_i hturn
    cases h
    exact .inl hturn
  · rename_i hturn
    split at h
    · cases h
    · rename_i hitem
      split at h
      · cases h
      · rename_i hitems
        cases h
        exact .inr ⟨_, _, _, _, hturn, hitem, hitems⟩

theorem entriesSteps_succ {n : Nat} {first : Bool} {cs rest : List Char} {es : List (String × α)}
    (h : entriesSteps read (n + 1) first cs = .ok (es, rest)) :
    (nextKey first cs = .ok (.over rest) ∧ es = []) ∨
      ∃ key name behind value a behind' es', nextKey first cs = .ok (.more key) ∧
        readString key = .ok (name, behind) ∧ colon behind = .ok value ∧
        read value = .ok (a, behind') ∧ entriesSteps read n false behind' = .ok (es', rest) ∧
        es = (String.ofList name, a) :: es' := by
  rw [entriesSteps] at h
  split at h
  · cases h
  · rename_i hturn
    cases h
    exact .inl ⟨hturn, rfl⟩
  · rename_i hturn
    split at h
    · cases h
    · rename_i hkey
      split at h
      · cases h
      · rename_i hcolon
        split at h
        · cases h
        · rename_i hvalue
          split at h
          · cases h
          · rename_i hentries
            cases h
            exact .inr ⟨_, _, _, _, _, _, _, hturn, hkey, hcolon, hvalue, hentries, rfl⟩

theorem Passes.key {d d' : Nat} {cs name behind value rest : List Char} {names : List String}
    (hkey : readString cs = .ok (name, behind)) (hcolon : colon behind = .ok value)
    (h : Passes d value d' rest names) :
    Passes d ('"' :: cs) d' rest (String.ofList name :: names) := by
  have hgaps := colon_eq_ok hcolon
  have hparted : Parted behind := by
    refine .of_skipGaps ?_
    rw [hgaps]
    exact parted_of_colon value
  have hnext : ColonNext behind := by
    rw [ColonNext, hgaps]
    rfl
  have hstring := Passes.string (d := d) hkey hparted
  have hbehind : Passes d behind d' rest names := by
    refine .gaps ?_
    rw [hgaps]
    exact h.quiet isQuiet_colon
  rw [if_pos hnext] at hstring
  exact hstring.trans hbehind

variable (hread : PassesOver read)

include hread

theorem itemsSteps_passes {d n : Nat} {first : Bool} {cs rest : List Char} {as : List α}
    (h : itemsSteps read n first cs = .ok (as, rest)) (hrest : EndsValue rest) :
    Passes (d + 1) cs d rest [] ∧ (first = false → EndsValue cs) := by
  induction n generalizing first cs as with
  | zero => cases h
  | succ n ih =>
    rcases itemsSteps_succ h with hturn | ⟨item, behind, a, as', hturn, hitem, hitems⟩
    · have hgaps := nextItem_over hturn
      refine ⟨.gaps ?_, fun _ => endsValue_of_close (.inl rfl) hgaps hrest⟩
      rw [hgaps]
      exact .close (.inl rfl)
    · -- what is read behind the item ends it, so the item is passed over
      obtain ⟨hpasses, hends⟩ := ih hitems
      have hall := (hread hitem (hends rfl)).trans hpasses
      rcases nextItem_more hturn with ⟨hfirst, rfl⟩ | ⟨mid, hcomma, rfl⟩
      · exact ⟨hall.gaps, fun hlater => by rw [hfirst] at hlater; cases hlater⟩
      · refine ⟨.gaps ?_, fun _ => endsValue_of_comma hcomma⟩
        rw [hcomma]
        exact hall.gaps.quiet isQuiet_comma

theorem entriesSteps_passes {d n : Nat} {first : Bool} {cs rest : List Char}
    {es : List (String × α)} (h : entriesSteps read n first cs = .ok (es, rest))
    (hrest : EndsValue rest) :
    Passes (d + 1) cs d rest (es.map Prod.fst) ∧ (first = false → EndsValue cs) := by
  induction n generalizing first cs es with
  | zero => cases h
  | succ n ih =>
    rcases entriesSteps_succ h with ⟨hturn, rfl⟩ |
      ⟨key, name, behind, value, a, behind', es', hturn, hkey, hcolon, hvalue, hentries, rfl⟩
    · have hgaps := nextKey_over hturn
      refine ⟨.gaps ?_, fun _ => endsValue_of_close (.inr rfl) hgaps hrest⟩
      rw [hgaps]
      exact .close (.inr rfl)
    · obtain ⟨hpasses, hends⟩ := ih hentries
      have hall := Passes.key hkey hcolon ((hread hvalue (hends rfl)).trans hpasses)
      rcases nextKey_more hturn with ⟨hfirst, hquote⟩ | ⟨mid, hcomma, hquote⟩
      · refine ⟨.gaps ?_, fun hlater => by rw [hfirst] at hlater; cases hlater⟩
        rw [hquote]
        exact hall
      · refine ⟨.gaps ?_, fun _ => endsValue_of_comma hcomma⟩
        rw [hcomma]
        refine .quiet isQuiet_comma (.gaps ?_)
        rw [hquote]
        exact hall

end

theorem token_eq_ok {β : Type} {f : β → Json} {read : Except Stop (β × List Char)} {j : Json}
    {rest : List Char} (h : token f read = .ok (j, rest)) : ∃ b, read = .ok (b, rest) := by
  unfold token at h
  split at h
  · cases h
    exact ⟨_, rfl⟩
  · cases h

theorem isQuiet_of_isLower {c : Char} (h : c.isLower = true) : IsQuiet c := by
  obtain ⟨hlow, hhigh⟩ := Bool.and_eq_true_iff.1 h
  exact isQuiet_of_isPlainCode (.inr ⟨of_decide_eq_true hlow, of_decide_eq_true hhigh⟩)

theorem Passes.word {d : Nat} {c : Char} {w cs rest : List Char} {j j' : Json}
    (hw : (c :: w).all Char.isLower = true)
    (h : wordValue j (Json.word w cs) = .ok (j', rest)) : Passes d (c :: cs) d rest [] := by
  unfold wordValue at h
  split at h
  · rename_i hword
    cases h
    rw [word_eq_ok hword]
    exact .quiets (fun c' hc' => isQuiet_of_isLower (List.all_eq_true.1 hw c' hc')) rest
  · cases h

theorem readValue_passes_of {room : Nat}
    (hbelow : ∀ room', room = room' + 1 → PassesOver (readValue room')) :
    PassesOver (readValue room) := by
  intro d cs rest j h hrest
  unfold readValue at h
  refine .gaps ?_
  split at h
  · cases h
  · rename_i hgaps
    rw [hgaps]
    exact .word (w := nullTail) rfl h
  · rename_i hgaps
    rw [hgaps]
    exact .word (w := trueTail) rfl h
  · rename_i hgaps
    rw [hgaps]
    exact .word (w := falseTail) rfl h
  · rename_i hgaps
    obtain ⟨name, hstring⟩ := token_eq_ok h
    have hpasses := Passes.string (d := d) hstring hrest.parted
    rw [if_neg hrest.noColon] at hpasses
    rw [hgaps]
    exact hpasses
  · rename_i hgaps
    obtain ⟨n, hnumber⟩ := token_eq_ok h
    rw [hgaps]
    exact .takes (.cons rfl (readNumber_takes hnumber))
  · rename_i hgaps
    split at h
    · cases h
    · obtain ⟨as, hitems⟩ := token_eq_ok h
      rw [hgaps]
      exact .bracket (.inl rfl) (itemsSteps_passes (hbelow _ rfl) hitems hrest).1
  · rename_i hgaps
    split at h
    · cases h
    · obtain ⟨es, hentries⟩ := token_eq_ok h
      rw [hgaps]
      exact .bracket (.inr rfl) (entriesSteps_passes (hbelow _ rfl) hentries hrest).1
  · rename_i hgaps
    split at h
    · obtain ⟨n, hnumber⟩ := token_eq_ok h
      rw [hgaps]
      exact .takes (readNumber_takes hnumber)
    · cases h

/-- **The reader of values passes over them.** -/
theorem readValue_passes (room : Nat) : PassesOver (readValue room) := by
  induction room with
  | zero => exact readValue_passes_of fun room' h => by cases h
  | succ room ih =>
    refine readValue_passes_of fun room' h => ?_
    cases h
    exact ih

/-! ## Documents -/

section

variable {rest : List Char} (hend : skipGaps rest = [])

include hend

theorem endsValue_of_end : EndsValue rest := by
  refine .of_skipGaps ?_
  rw [hend]
  exact ⟨parted_of_not_mem List.not_mem_nil, by decide⟩

theorem lexed_of_end : Lexed rest :=
  of_skipGaps (P := Lexed) (by rw [hend]; exact .nil) fun _ _ hc hcs =>
    .char (ne_of_isGap hc).1 (ne_of_isGap hc).2.1 (fun _ => hc) hcs

theorem keysFrom_of_end (offset depth : Nat) : keysFrom offset depth 0 rest = [] := by
  obtain ⟨offset', hgaps⟩ := exists_keysFrom_skipGaps offset depth rest
  rw [hgaps, hend]
  rfl

end

section

variable {room : Nat} {text cs rest : List Char} {es : List (String × Json)}
  (hopen : skipGaps text = '\x7b' :: cs) (hentries : entries (readValue room) cs = .ok (es, rest))
  (hend : skipGaps rest = [])

include hentries hend

theorem passes_of_entries : Passes 1 cs 0 rest (es.map Prod.fst) :=
  (entriesSteps_passes (readValue_passes room) hentries (endsValue_of_end hend)).1

include hopen

theorem lexed_of_entries : Lexed text := by
  have hall : Passes 0 text 0 rest [] := by
    refine .gaps ?_
    rw [hopen]
    exact .bracket (.inr rfl) (passes_of_entries hentries hend)
  exact hall.lexed (lexed_of_end hend)

/-- **The keys with one bracket around them are those of the entries**, in order. -/
theorem keysOf_of_entries :
    ((keysOf text).filter (·.depth = 1)).map (·.name) = es.map Prod.fst := by
  have hdepth : depthBehind 0 '\x7b' = 1 := rfl
  obtain ⟨offset, hgaps⟩ := exists_keysFrom_skipGaps 0 0 text
  rw [hopen, keysFrom_char offset 0 (by decide), hdepth] at hgaps
  obtain ⟨ks, offset', hks, -, hnames⟩ :=
    (passes_of_entries hentries hend).keys (offset + Char.utf8Size '\x7b')
  rw [keysOf, hgaps, hks, keysFrom_of_end hend, List.append_nil, hnames]

end

end Conformance.Json
