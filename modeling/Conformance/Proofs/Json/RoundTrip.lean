import Conformance.Json.Schema
import Conformance.Proofs.Json.Spacing
import Mathlib.Data.List.Forall2
import Mathlib.Data.List.Nodup
/-!
# What is written reads back

A datum that fits a shape is written as a JSON value, and the text of that value, with or without
blanks, reads back as the datum (`readShape_spell`).  A field that is left out of the text comes
back from its default, so a layout has to give every field that may be left out the default that stands
for it (`Layout.IsSound`).

A reader is shown to take exactly the text of a value off the front and to leave what follows.  For
numbers that needs what follows not to go on as a number does.
-/
namespace Conformance.Json

/-! ## Blanks -/

theorem skipGaps_of_not_isGap {c : Char} (h : isGap c = false) (cs : List Char) :
    skipGaps (c :: cs) = c :: cs := by
  simp [skipGaps, h]

theorem skipGaps_blanks {blanks : List Char} (h : ∀ c ∈ blanks, isGap c = true) (cs : List Char) :
    skipGaps (blanks ++ cs) = skipGaps cs := List.dropWhile_append_of_pos h

/-! ## Strings -/

theorem hexValue?_hexDigit : ∀ n < 16, Text.hexValue? (hexDigit n) = some n := by decide

theorem hexEscape_control {c : Char} (h : c.toNat < 0x20) (rest : List Char) :
    hexEscape ('0' :: '0' :: hexDigit (c.toNat / 16) :: hexDigit (c.toNat % 16) :: rest) =
      .ok (c.toNat, rest) := by
  have hzero : Text.hexValue? '0' = some 0 := by decide
  rw [hexEscape, hzero, hexValue?_hexDigit _ (by omega), hexValue?_hexDigit _ (by omega)]
  have hvalue : ((0 * 16 + 0) * 16 + c.toNat / 16) * 16 + c.toNat % 16 = c.toNat := by omega
  simp only [hvalue]

theorem escape_control {c : Char} (h : c.toNat < 0x20) (rest : List Char) :
    escape ('u' :: '0' :: '0' :: hexDigit (c.toNat / 16) :: hexDigit (c.toNat % 16) :: rest) =
      .ok (c, rest) := by
  have hlow : ¬ (0xDC00 ≤ c.toNat ∧ c.toNat ≤ 0xDFFF) := by omega
  have hhigh : ¬ (0xD800 ≤ c.toNat ∧ c.toNat ≤ 0xDBFF) := by omega
  simp only [escape, hexEscape_control h, bind, Except.bind, hlow, hhigh, if_false,
    Char.ofNat_toNat]

theorem stringSteps_escape {cs rest : List Char} {c : Char} (n : Nat)
    (h : escape cs = .ok (c, rest)) : stringSteps (n + 1) ('\\' :: cs) =
      (stringSteps n rest).map fun p => (c :: p.1, p.2) := by
  rw [stringSteps, if_neg (by decide), if_pos rfl, h]
  simp only [bind, Except.bind]
  cases stringSteps n rest <;> rfl

theorem stringSteps_escapedChar (c : Char) (n : Nat) (rest : List Char) :
    stringSteps (n + 1) (escapedChar c ++ rest) =
      (stringSteps n rest).map fun p => (c :: p.1, p.2) := by
  by_cases hshort : c = '"' ∨ c = '\\' ∨ c = '\x08' ∨ c = '\t' ∨ c = '\n' ∨ c = '\x0c' ∨ c = '\r'
  · rcases hshort with rfl | rfl | rfl | rfl | rfl | rfl | rfl <;> exact stringSteps_escape n rfl
  · simp only [not_or] at hshort
    obtain ⟨hquote, hslash, hb, ht, hn, hf, hr⟩ := hshort
    by_cases hcontrol : c.toNat < 0x20
    · simp only [escapedChar, hquote, hslash, hb, ht, hn, hf, hr, hcontrol, if_false, if_true]
      exact stringSteps_escape n (escape_control hcontrol rest)
    · simp only [escapedChar, hquote, hslash, hb, ht, hn, hf, hr, hcontrol, if_false,
        List.singleton_append, stringSteps, bind, Except.bind]
      cases stringSteps n rest <;> rfl

theorem stringSteps_escaped : ∀ (s : List Char) {n : Nat} (rest : List Char), s.length < n →
    stringSteps n (s.flatMap escapedChar ++ '"' :: rest) = .ok (s, rest)
  | [], n + 1, rest, _ => by simp [stringSteps]
  | c :: s, n + 1, rest, h => by
    rw [List.flatMap_cons, List.append_assoc, stringSteps_escapedChar,
      stringSteps_escaped s rest (by simpa using h)]
    rfl

theorem length_le_flatMap_escapedChar : ∀ s : List Char,
    s.length ≤ (s.flatMap escapedChar).length
  | [] => Nat.le_refl 0
  | c :: s => by
    have hc : 1 ≤ (escapedChar c).length := by
      unfold escapedChar
      split_ifs <;> simp
    have hs := length_le_flatMap_escapedChar s
    rw [List.flatMap_cons, List.length_append, List.length_cons]
    omega

theorem readString_escaped (s rest : List Char) :
    readString (s.flatMap escapedChar ++ '"' :: rest) = .ok (s, rest) := by
  refine stringSteps_escaped s rest ?_
  have hs := length_le_flatMap_escapedChar s
  rw [List.length_append]
  omega

/-! ## Numbers -/

/-- What follows does not go on as a number does. -/
def IsEnd (rest : List Char) : Prop :=
  ∀ c, rest.head? = some c → isDigit c = false ∧ c ≠ '.' ∧ c ≠ 'e' ∧ c ≠ 'E'

theorem addDigits_eq : ∀ (ds : List Char) (n : Nat), Nat.ofDigitChars 10 ds n ≤ maxWord64 →
    addDigits ds n = (Nat.ofDigitChars 10 ds n, 0)
  | [], n, _ => rfl
  | c :: ds, n, h => by
    rw [Nat.ofDigitChars_cons] at h ⊢
    have hvalue : n * 10 + digitValue c = 10 * n + (c.toNat - '0'.toNat) := by
      rw [digitValue, Nat.mul_comm]
    have hle : ∀ (ds : List Char) (m : Nat), m ≤ Nat.ofDigitChars 10 ds m := by
      intro ds
      induction ds with
      | nil => exact fun m => Nat.le_refl m
      | cons d ds ih =>
        intro m
        have hstep := ih (10 * m + (d.toNat - '0'.toNat))
        rw [Nat.ofDigitChars_cons]
        omega
    rw [addDigits, hvalue, if_pos (Nat.le_trans (hle ds _) h)]
    exact addDigits_eq ds _ h

theorem afterWhole_of_isEnd (n : Nat) {rest : List Char} (h : IsEnd rest) :
    afterWhole false n 0 rest = .ok (.natural n, rest) := by
  unfold afterWhole
  split
  · exact absurd rfl (h '.' rfl).2.1
  · exact absurd rfl (h 'e' rfl).2.2.1
  · exact absurd rfl (h 'E' rfl).2.2.2
  · simp

theorem takeWhile_append_of_isEnd {ds rest : List Char} (hds : ∀ c ∈ ds, isDigit c = true)
    (h : IsEnd rest) : (ds ++ rest).takeWhile isDigit = ds ∧
      (ds ++ rest).dropWhile isDigit = rest := by
  rw [List.takeWhile_append_of_pos hds, List.dropWhile_append_of_pos hds]
  cases rest with
  | nil => simp
  | cons c rest => simp [(h c rfl).1]

theorem isDigit_of_mem_toDigits {n : Nat} {c : Char} (h : c ∈ Nat.toDigits 10 n) :
    isDigit c = true := by
  have hc := Nat.isDigit_of_mem_toDigits (by decide) (by decide) h
  simpa [isDigit, Char.isDigit, Char.le_def] using hc

theorem head_toDigits : ∀ {n : Nat} {c : Char} {ds : List Char}, n ≠ 0 →
    Nat.toDigits 10 n = c :: ds → c ≠ '0' := by
  intro n
  induction n using Nat.strongRecOn with
  | ind n ih =>
    intro c ds hn hc
    rw [Nat.toDigits_eq_if (by decide)] at hc
    split at hc
    · rename_i hsmall
      obtain ⟨rfl, -⟩ := List.cons.inj hc
      have hall : ∀ m < 10, m ≠ 0 → m.digitChar ≠ '0' := by decide
      exact hall n hsmall hn
    · rename_i hbig
      cases hd : Nat.toDigits 10 (n / 10) with
      | nil => exact absurd hd (Nat.toDigits_ne_nil)
      | cons c' ds' =>
        rw [hd] at hc
        obtain ⟨rfl, -⟩ := List.cons.inj hc
        exact ih (n / 10) (by omega) (by omega) hd

theorem readNumber_zero {rest : List Char} (h : IsEnd rest) :
    readNumber false ('0' :: rest) = .ok (.natural 0, rest) := by
  cases rest with
  | nil => rfl
  | cons c rest =>
    have hstop : isDigit c = false := (h c rfl).1
    simp only [readNumber, hstop, Bool.false_eq_true, if_false]
    exact afterWhole_of_isEnd 0 h

theorem readNumber_toDigits {n : Nat} (hn : n ≤ maxWord64) {rest : List Char} (h : IsEnd rest) :
    readNumber false (Nat.toDigits 10 n ++ rest) = .ok (.natural n, rest) := by
  by_cases hzero : n = 0
  · subst hzero
    exact readNumber_zero h
  · cases hds : Nat.toDigits 10 n with
    | nil => exact absurd hds Nat.toDigits_ne_nil
    | cons c ds =>
      have hall : ∀ x ∈ c :: ds, isDigit x = true := by
        rw [← hds]
        exact fun x hx => isDigit_of_mem_toDigits hx
      obtain ⟨htake, hdrop⟩ := takeWhile_append_of_isEnd hall h
      have hvalue : addDigits (c :: ds) 0 = (n, 0) := by
        rw [← hds, addDigits_eq _ 0 (by rw [Nat.ofDigitChars_ten_toDigits]; exact hn),
          Nat.ofDigitChars_ten_toDigits]
      rw [List.cons_append] at htake hdrop ⊢
      rw [readNumber.eq_4 _ _ _ (head_toDigits hzero hds), if_pos (hall c List.mem_cons_self),
        htake, hdrop, hvalue]
      exact afterWhole_of_isEnd n h

/-! ## Data that fit their shape -/

/-- A field takes a datum whatever its shape is: `null` where it may stand, or what it is left out
for. -/
def Field.Waives {ρ : Type} (f : Field ρ) (d : Datum) : Prop :=
  f.nullable = true ∧ d = .null ∨ f.leavesOut d = true ∧ f.absent = some d

/-- A datum is one that reading a shape can give, with room for so many open brackets. What is left
out takes no room. -/
def Fits {ρ : Type} (schema : ρ → Layout ρ) : Nat → Shape ρ → Datum → Prop
  | _, .text, d => ∃ s, d = .text s
  | _, .flag, d => ∃ b, d = .flag b
  | _, .word, d => ∃ n, d = .word n
  | _, .choice names other, d => ∃ name, d = .choice name ∧ settleName names other name = some name
  | 0, .list _, _ => False
  | room + 1, .list item, d => ∃ ds, d = .list ds ∧ ∀ x ∈ ds, Fits schema room item x
  | 0, .record _, _ => False
  | room + 1, .record r, d => ∃ ds, d = .record ds ∧ List.Forall₂
      (fun f x => f.Waives x ∨ Fits schema room f.shape x) (schema r).fields ds

/-- The keys of a layout are different, and a field that may be left out has what it was left out
for as its default. -/
structure Layout.IsSound {ρ : Type} (layout : Layout ρ) : Prop where
  once : (layout.fields.map (·.key)).Nodup
  absent : ∀ f ∈ layout.fields, f.sparse = true →
    f.absent = some (if f.nullable then .null else .list [])

/-- The text of a value that is not `null`: it starts at once, and the start tells. -/
def Opens (cs : List Char) : Prop :=
  ∃ c more, cs = c :: more ∧ isGap c = false ∧ c ≠ ']' ∧ c ≠ 'n'

variable {ρ : Type} {schema : ρ → Layout ρ} {s : Spacing}

theorem Fits.ne_null {room : Nat} {shape : Shape ρ} {d : Datum} (h : Fits schema room shape d) :
    d ≠ .null := by
  rintro rfl
  cases shape <;> cases room <;> simp [Fits] at h

theorem opens_toDigits (n : Nat) : Opens (Nat.toDigits 10 n) := by
  cases hds : Nat.toDigits 10 n with
  | nil => exact absurd hds Nat.toDigits_ne_nil
  | cons c ds =>
    have hc : isDigit c = true := isDigit_of_mem_toDigits (by rw [hds]; exact List.mem_cons_self)
    refine ⟨c, ds, rfl, ?_, ?_, ?_⟩
    · cases hgap : isGap c with
      | false => rfl
      | true =>
        simp only [isGap, Bool.or_eq_true, beq_iff_eq] at hgap
        rcases hgap with ((rfl | rfl) | rfl) | rfl <;> cases hc
    · rintro rfl
      cases hc
    · rintro rfl
      cases hc

theorem Fits.opens {room : Nat} {shape : Shape ρ} {d : Datum} (h : Fits schema room shape d)
    (s : Spacing) (level : Nat) : Opens (s.spell level (write schema shape d)) := by
  cases shape with
  | text =>
    rw [Fits] at h
    obtain ⟨t, rfl⟩ := h
    exact ⟨'"', _, rfl, by decide⟩
  | flag =>
    rw [Fits] at h
    obtain ⟨b, rfl⟩ := h
    cases b <;> exact ⟨_, _, rfl, by decide⟩
  | word =>
    rw [Fits] at h
    obtain ⟨n, rfl⟩ := h
    exact opens_toDigits n.toNat
  | choice names other =>
    rw [Fits] at h
    obtain ⟨name, rfl, -⟩ := h
    exact ⟨'"', _, rfl, by decide⟩
  | list item =>
    cases room with
    | zero => exact h.elim
    | succ room =>
      obtain ⟨ds, rfl, -⟩ := h
      cases ds <;> exact ⟨'[', _, rfl, by decide⟩
  | record r =>
    cases room with
    | zero => exact h.elim
    | succ room =>
      obtain ⟨ds, rfl, -⟩ := h
      rw [write]
      cases writeFields schema (schema r).fields ds <;> exact ⟨'\x7b', _, rfl, by decide⟩

/-! ## Lists -/

theorem isEnd_blanks {blanks : List Char} (h : ∀ c ∈ blanks, isGap c = true) {close : Char}
    (hclose : close = ']' ∨ close = '\x7d') (rest : List Char) :
    IsEnd (blanks ++ close :: rest) := by
  intro c hc
  cases blanks with
  | nil =>
    cases hc
    rcases hclose with rfl | rfl <;> decide
  | cons b blanks =>
    cases hc
    have hgap := h c List.mem_cons_self
    simp only [isGap, Bool.or_eq_true, beq_iff_eq] at hgap
    rcases hgap with ((rfl | rfl) | rfl) | rfl <;> decide

theorem isEnd_spellItems (level : Nat) (js : List Json) (rest : List Char) :
    IsEnd (s.spellItems level false js ++ rest) := by
  cases js with
  | nil =>
    rw [Spacing.spellItems, List.append_assoc, List.singleton_append]
    exact isEnd_blanks (s.isGap_line level) (.inl rfl) rest
  | cons j js =>
    intro c hc
    rw [Spacing.spellItems] at hc
    cases hc
    decide

theorem nextItem_spell {cs : List Char} (h : Opens cs) (first : Bool) (level : Nat)
    (rest : List Char) :
    nextItem first ((if first then [] else [',']) ++ s.line level ++ cs ++ rest) =
      .ok (.more (cs ++ rest)) := by
  obtain ⟨c, more, rfl, hgap, hclose, -⟩ := h
  have hskip : skipGaps (s.line level ++ (c :: (more ++ rest))) = c :: (more ++ rest) := by
    rw [skipGaps_blanks (s.isGap_line level), skipGaps_of_not_isGap hgap]
  cases first with
  | true =>
    simp [nextItem, hskip]
  | false =>
    have hcomma : skipGaps (',' :: (s.line level ++ (c :: (more ++ rest)))) =
      ',' :: (s.line level ++ (c :: (more ++ rest))) := rfl
    simp [nextItem, hcomma, hskip, hclose]

theorem itemsSteps_spellItems {α : Type} {item : List Char → Except Stop (α × List Char)}
    {text : α → Json} (level : Nat) (rest : List Char) : ∀ (as : List α) (first : Bool) {n : Nat},
    (∀ a ∈ as, Opens (s.spell (level + 1) (text a)) ∧ ∀ more, IsEnd more →
      item (s.spell (level + 1) (text a) ++ more) = .ok (a, more)) → as.length < n →
    itemsSteps item n first (s.spellItems level first (as.map text) ++ rest) = .ok (as, rest)
  | [], first, n + 1, _, _ => by
    have hover : nextItem first (s.line level ++ ']' :: rest) = .ok (.over rest) := by
      rw [nextItem, skipGaps_blanks (s.isGap_line level)]
      rfl
    rw [List.map_nil, Spacing.spellItems, List.append_assoc, List.singleton_append, itemsSteps,
      hover]
  | a :: as, first, n + 1, h, hn => by
    obtain ⟨hopens, hitem⟩ := h a List.mem_cons_self
    have hrest := itemsSteps_spellItems level rest as false
      (fun b hb => h b (List.mem_cons_of_mem a hb)) (Nat.lt_of_succ_lt_succ hn)
    rw [List.map_cons, Spacing.spellItems, List.append_assoc, itemsSteps, nextItem_spell hopens]
    simp only [hitem _ (isEnd_spellItems level _ rest), hrest]

theorem length_le_spellItems (level : Nat) : ∀ (js : List Json) (first : Bool),
    js.length + (if first then 0 else 1) ≤ (s.spellItems level first js).length
  | [], first => by
    rw [Spacing.spellItems, List.length_append]
    cases first <;> simp
  | j :: js, first => by
    have hrest := length_le_spellItems level js false
    rw [if_neg (by decide)] at hrest
    rw [Spacing.spellItems]
    cases first <;> simp only [List.length_append, List.length_cons, if_true, Bool.false_eq_true,
      if_false, List.length_nil] <;> omega

theorem writeItems_eq (item : Shape ρ) : ∀ ds : List Datum,
    writeItems schema item ds = ds.map (write schema item)
  | [] => rfl
  | d :: ds => by rw [writeItems, writeItems_eq item ds, List.map_cons]

theorem items_spell {room : Nat} {item : Shape ρ} {ds : List Datum} (level : Nat)
    (rest : List Char) (hds : ∀ d ∈ ds, Fits schema room item d)
    (hread : ∀ d ∈ ds, ∀ more, IsEnd more →
      readShape schema room item (s.spell (level + 1) (write schema item d) ++ more) =
        .ok (d, more)) :
    ∃ text, s.spell level (.array (writeItems schema item ds)) = '[' :: text ∧
      items (readShape schema room item) (text ++ rest) = .ok (ds, rest) := by
  rw [writeItems_eq]
  cases ds with
  | nil => exact ⟨[']'], rfl, rfl⟩
  | cons d ds =>
    refine ⟨s.spellItems level true ((d :: ds).map (write schema item)), rfl, ?_⟩
    refine itemsSteps_spellItems level rest (d :: ds) true
      (fun x hx => ⟨(hds x hx).opens s (level + 1), hread x hx⟩) ?_
    have hlength : _ ≤ (s.spellItems level true ((d :: ds).map (write schema item))).length :=
      length_le_spellItems level _ true
    rw [List.length_map, if_pos rfl] at hlength
    rw [List.length_append]
    omega

/-! ## Records -/

theorem lookup_eq_none {α : Type} {key : String} : ∀ {es : List (String × α)},
    key ∉ es.map (·.1) → lookup key es = none
  | [], _ => rfl
  | (k, v) :: es, h => by
    rw [List.map_cons, List.mem_cons, not_or] at h
    rw [lookup, if_neg (Ne.symm h.1), lookup_eq_none h.2]

theorem lookup_of_mem {α : Type} {key : String} {v : α} : ∀ {es : List (String × α)},
    (es.map (·.1)).Nodup → (key, v) ∈ es → lookup key es = some v
  | (k, w) :: es, hes, h => by
    rw [List.map_cons, List.nodup_cons] at hes
    rcases List.mem_cons.1 h with h | h
    · cases h
      rw [lookup, if_pos rfl]
    · have hne : k ≠ key := by
        rintro rfl
        exact hes.1 (List.mem_map.2 ⟨_, h, rfl⟩)
      rw [lookup, if_neg hne, lookup_of_mem hes.2 h]

theorem find?_key {fields : List (Field ρ)} (hfields : (fields.map (·.key)).Nodup) {f : Field ρ}
    (hf : f ∈ fields) : fields.find? (·.key == f.key) = some f := by
  induction fields with
  | nil => cases hf
  | cons g fields ih =>
    rw [List.map_cons, List.nodup_cons] at hfields
    rcases List.mem_cons.1 hf with rfl | hf
    · simp
    · have hne : g.key ≠ f.key := fun heq => hfields.1 (heq ▸ List.mem_map.2 ⟨f, hf, rfl⟩)
      rw [List.find?_cons_of_neg (by simpa using hne)]
      exact ih hfields.2 hf

def kept (fs : List (Field ρ)) (ds : List Datum) : List (Field ρ × Datum) :=
  (fs.zip ds).filter fun x => !x.1.leavesOut x.2

def memberOf (schema : ρ → Layout ρ) (x : Field ρ × Datum) : String × Json :=
  (x.1.key, write schema x.1.shape x.2)

theorem writeFields_eq : ∀ (fs : List (Field ρ)) (ds : List Datum),
    writeFields schema fs ds = (kept fs ds).map (memberOf schema)
  | [], _ => by simp [writeFields, kept]
  | _ :: _, [] => by simp [writeFields, kept]
  | f :: fs, d :: ds => by
    rw [writeFields, writeFields_eq fs ds]
    cases hout : f.leavesOut d <;> simp [kept, hout, memberOf]

theorem isEnd_spellMembers (level : Nat) (ms : List (String × Json)) (rest : List Char) :
    IsEnd (s.spellMembers level false ms ++ rest) := by
  cases ms with
  | nil =>
    rw [Spacing.spellMembers, List.append_assoc, List.singleton_append]
    exact isEnd_blanks (s.isGap_line level) (.inr rfl) rest
  | cons m ms =>
    intro c hc
    rw [Spacing.spellMembers] at hc
    cases hc
    decide

theorem nextKey_spell (first : Bool) (level : Nat) (cs : List Char) :
    nextKey first ((if first then [] else [',']) ++ s.line level ++ '"' :: cs) =
      .ok (.more cs) := by
  have hskip : skipGaps (s.line level ++ ('"' :: cs)) = '"' :: cs := by
    rw [skipGaps_blanks (s.isGap_line level)]
    rfl
  cases first with
  | true => simp [nextKey, hskip]
  | false =>
    have hcomma : skipGaps (',' :: (s.line level ++ ('"' :: cs))) =
      ',' :: (s.line level ++ ('"' :: cs)) := rfl
    simp [nextKey, hcomma, hskip]

theorem objectForm_spellMembers {layout : Layout ρ}
    {value : Field ρ → List Char → Except Stop (Datum × List Char)}
    (hlayout : (layout.fields.map (·.key)).Nodup) (level : Nat) (rest : List Char) :
    ∀ (xs : List (Field ρ × Datum)) (first : Bool) (seen : List (String × Datum)) {n : Nat},
    (∀ x ∈ xs, x.1 ∈ layout.fields ∧ ∀ more, IsEnd more →
      value x.1 (s.gap ++ s.spell (level + 1) (write schema x.1.shape x.2) ++ more) =
        .ok (x.2, more)) →
    (xs.map (·.1.key)).Nodup → (∀ x ∈ xs, x.1.key ∉ seen.map (·.1)) → xs.length < n →
    objectForm layout value n first seen
        (s.spellMembers level first (xs.map (memberOf schema)) ++ rest) =
      .ok ((xs.map fun x => (x.1.key, x.2)).reverse ++ seen, rest)
  | [], first, seen, n + 1, _, _, _, _ => by
    have hover : nextKey first (s.line level ++ '\x7d' :: rest) = .ok (.over rest) := by
      rw [nextKey, skipGaps_blanks (s.isGap_line level)]
      rfl
    rw [List.map_nil, Spacing.spellMembers, List.append_assoc, List.singleton_append, objectForm,
      hover]
    rfl
  | x :: xs, first, seen, n + 1, hxs, honce, hseen, hn => by
    obtain ⟨hfield, hvalue⟩ := hxs x List.mem_cons_self
    rw [List.map_cons, List.nodup_cons] at honce
    have hrest := objectForm_spellMembers hlayout level rest xs false ((x.1.key, x.2) :: seen)
      (fun y hy => hxs y (List.mem_cons_of_mem x hy)) honce.2 (fun y hy => ?_)
      (Nat.lt_of_succ_lt_succ hn)
    · have htext : s.spellMembers level first ((x :: xs).map (memberOf schema)) ++ rest =
          (if first then [] else [',']) ++ s.line (level + 1) ++ '"' ::
            (x.1.key.toList.flatMap escapedChar ++ '"' :: ':' :: (s.gap ++ s.spell (level + 1)
              (write schema x.1.shape x.2) ++
                (s.spellMembers level false (xs.map (memberOf schema)) ++ rest))) := by
        simp [Spacing.spellMembers, memberOf, stringText]
      have hunseen : lookup x.1.key seen = none := lookup_eq_none (hseen x List.mem_cons_self)
      have hcolon : ∀ cs, colon (':' :: cs) = .ok cs := fun _ => rfl
      rw [htext, objectForm, nextKey_spell]
      simp only [readString_escaped, String.ofList_toList, find?_key hlayout hfield, hunseen,
        Option.isSome_none, Bool.false_eq_true, if_false, hcolon,
        hvalue _ (isEnd_spellMembers level _ rest), hrest]
      simp
    · rw [List.map_cons, List.mem_cons, not_or]
      refine ⟨fun heq => honce.1 ?_, hseen y (List.mem_cons_of_mem x hy)⟩
      exact List.mem_map.2 ⟨y, hy, heq⟩

theorem length_le_spellMembers (level : Nat) : ∀ (ms : List (String × Json)) (first : Bool),
    ms.length ≤ (s.spellMembers level first ms).length
  | [], _ => Nat.zero_le _
  | (k, j) :: ms, first => by
    have hrest := length_le_spellMembers level ms false
    rw [Spacing.spellMembers]
    simp only [List.length_append, List.length_cons]
    omega

theorem settleFields_eq {seen : List (String × Datum)} (rest : List Char) :
    ∀ {fs : List (Field ρ)} {ds : List Datum},
    List.Forall₂ (fun f d => (lookup f.key seen).or f.absent = some d) fs ds →
      settleFields seen rest fs = .ok ds
  | [], _, .nil => rfl
  | f :: fs, d :: ds, .cons h hs => by
    rw [settleFields, h]
    simp only [settleFields_eq rest hs]

theorem absent_of_leavesOut {layout : Layout ρ} (hlayout : layout.IsSound) {f : Field ρ}
    (hf : f ∈ layout.fields) {room : Nat} {d : Datum}
    (hd : f.Waives d ∨ Fits schema room f.shape d) (h : f.leavesOut d = true) :
    f.absent = some d := by
  rcases hd with (⟨hnull, rfl⟩ | ⟨-, habsent⟩) | hfits
  · rw [hlayout.absent f hf h, if_pos hnull]
  · exact habsent
  · unfold Field.leavesOut at h
    split at h
    · exact absurd rfl hfits.ne_null
    · rw [Bool.and_eq_true, Bool.not_eq_true'] at h
      rw [hlayout.absent f hf h.1, if_neg (by simp [h.2])]
    · cases h

theorem keys_zip {fs : List (Field ρ)} {ds : List Datum} (h : fs.length = ds.length) :
    (fs.zip ds).map (·.1.key) = fs.map (·.key) := by
  conv_rhs => rw [← List.map_fst_zip (Nat.le_of_eq h), List.map_map]
  rfl

theorem keys_kept {fs : List (Field ρ)} {ds : List Datum} (h : fs.length = ds.length) :
    ((kept fs ds).map (·.1.key)).Sublist (fs.map (·.key)) := by
  rw [← keys_zip h]
  exact List.filter_sublist.map _

theorem lookup_kept {fs : List (Field ρ)} {ds : List Datum} (honce : (fs.map (·.key)).Nodup)
    (hlength : fs.length = ds.length) {f : Field ρ} {d : Datum} (hmem : (f, d) ∈ fs.zip ds) :
    lookup f.key ((kept fs ds).map fun x => (x.1.key, x.2)).reverse =
      if f.leavesOut d then none else some d := by
  split
  · rename_i hout
    refine lookup_eq_none fun hkey => ?_
    rw [List.map_reverse, List.mem_reverse, List.map_map] at hkey
    obtain ⟨⟨g, e⟩, hkept, heq⟩ := List.mem_map.1 hkey
    obtain ⟨hzip, hin⟩ := List.mem_filter.1 hkept
    -- one key is one field, so what was kept under this key would be what was left out
    rw [← keys_zip hlength] at honce
    cases List.inj_on_of_nodup_map honce hzip hmem heq
    simp [hout] at hin
  · rename_i hin
    have hkeys : (((kept fs ds).map fun x => (x.1.key, x.2)).reverse.map (·.1)).Nodup := by
      rw [List.map_reverse, List.nodup_reverse, List.map_map]
      exact honce.sublist (keys_kept hlength)
    refine lookup_of_mem hkeys (List.mem_reverse.2 (List.mem_map.2 ⟨(f, d), ?_, rfl⟩))
    exact List.mem_filter.2 ⟨hmem, by simpa using hin⟩

theorem readShape_blanks {blanks : List Char} (h : ∀ c ∈ blanks, isGap c = true) (room : Nat)
    (shape : Shape ρ) (cs : List Char) :
    readShape schema room shape (blanks ++ cs) = readShape schema room shape cs := by
  cases shape <;> simp only [readShape, readText, readFlag, readWord, skipGaps_blanks h]

theorem nullOr_spell {room : Nat} {f : Field ρ} {d : Datum} (level : Nat) {more : List Char}
    (hd : f.Waives d ∨ Fits schema room f.shape d) (hin : f.leavesOut d = false)
    (hread : Fits schema room f.shape d →
      readShape schema room f.shape (s.spell level (write schema f.shape d) ++ more) =
        .ok (d, more)) :
    nullOr (readShape schema room f.shape) f.nullable
      (s.gap ++ s.spell level (write schema f.shape d) ++ more) = .ok (d, more) := by
  rw [List.append_assoc]
  rcases hd with (⟨hnull, rfl⟩ | ⟨hout, -⟩) | hfits
  · have htext : s.spell level (write schema f.shape .null) = ['n', 'u', 'l', 'l'] := by
      cases f.shape <;> rfl
    rw [htext, hnull, nullOr, if_pos rfl, skipGaps_blanks s.isGap_gap]
    rfl
  · rw [hin] at hout
    cases hout
  · obtain ⟨c, text, htext, hgap, -, hn⟩ := hfits.opens s level
    have hfits' := hread hfits
    rw [htext] at hfits' ⊢
    cases hnullable : f.nullable with
    | false =>
      rw [nullOr, if_neg (by decide), readShape_blanks s.isGap_gap]
      exact hfits'
    | true =>
      rw [nullOr, if_pos rfl, skipGaps_blanks s.isGap_gap, List.cons_append,
        skipGaps_of_not_isGap hgap]
      split
      · rename_i heq
        exact absurd (List.cons.inj heq).1 hn
      · exact hfits'

theorem recordObject_spell {layout : Layout ρ} (hlayout : layout.IsSound) {room : Nat}
    {ds : List Datum} (level : Nat) (rest : List Char)
    (hds : List.Forall₂ (fun f d => f.Waives d ∨ Fits schema room f.shape d) layout.fields ds)
    (hread : ∀ shape d, Fits schema room shape d → ∀ more, IsEnd more →
      readShape schema room shape (s.spell (level + 1) (write schema shape d) ++ more) =
        .ok (d, more)) :
    ∃ text, s.spell level (.object (writeFields schema layout.fields ds)) = '\x7b' :: text ∧
      recordObject layout (fun f => nullOr (readShape schema room f.shape) f.nullable)
        (text ++ rest) = .ok (.record ds, rest) := by
  have hlength := hds.length_eq
  have hmem : ∀ x ∈ layout.fields.zip ds, x.1 ∈ layout.fields ∧
      (x.1.Waives x.2 ∨ Fits schema room x.1.shape x.2) := by
    rintro ⟨f, d⟩ hx
    exact ⟨(List.of_mem_zip hx).1, (List.forall₂_iff_zip.1 hds).2 hx⟩
  have hsettle : settleFields ((kept layout.fields ds).map fun x => (x.1.key, x.2)).reverse rest
      layout.fields = .ok ds := by
    refine settleFields_eq rest (List.forall₂_iff_zip.2 ⟨hlength, fun {f d} hx => ?_⟩)
    rw [lookup_kept hlayout.once hlength hx]
    split
    · rename_i hout
      exact absent_of_leavesOut hlayout (hmem _ hx).1 (hmem _ hx).2 hout
    · rfl
  rw [writeFields_eq]
  cases hkept : kept layout.fields ds with
  | nil =>
    rw [hkept] at hsettle
    refine ⟨['\x7d'], rfl, ?_⟩
    have hobject : objectForm layout (fun f => nullOr (readShape schema room f.shape) f.nullable)
        ((['\x7d'] ++ rest).length + 1) true [] (['\x7d'] ++ rest) = .ok ([], rest) := rfl
    rw [recordObject, hobject]
    simp only [List.map_nil, List.reverse_nil] at hsettle
    simp only [hsettle]
  | cons x xs =>
    refine ⟨s.spellMembers level true ((x :: xs).map (memberOf schema)), rfl, ?_⟩
    have hcount : (kept layout.fields ds).length <
        (s.spellMembers level true ((x :: xs).map (memberOf schema)) ++ rest).length + 1 := by
      have hmembers : _ ≤ (s.spellMembers level true ((x :: xs).map (memberOf schema))).length :=
        length_le_spellMembers level _ true
      rw [List.length_map] at hmembers
      rw [hkept, List.length_append]
      omega
    have hvalues : ∀ y ∈ kept layout.fields ds, y.1 ∈ layout.fields ∧ ∀ more, IsEnd more →
        nullOr (readShape schema room y.1.shape) y.1.nullable
          (s.gap ++ s.spell (level + 1) (write schema y.1.shape y.2) ++ more) =
            .ok (y.2, more) := by
      intro y hy
      obtain ⟨hzip, hin⟩ := List.mem_filter.1 hy
      obtain ⟨hfield, hfits⟩ := hmem y hzip
      exact ⟨hfield, fun more hmore =>
        nullOr_spell (level + 1) hfits (by simpa using hin) fun h => hread _ _ h more hmore⟩
    have hmembers : objectForm layout
        (fun f => nullOr (readShape schema room f.shape) f.nullable) _ true []
          (s.spellMembers level true ((kept layout.fields ds).map (memberOf schema)) ++ rest) = _ :=
      objectForm_spellMembers hlayout.once level rest _ true [] hvalues
        (hlayout.once.sublist (keys_kept hlength)) (by simp) hcount
    rw [hkept] at hmembers hsettle
    rw [recordObject, hmembers]
    simp only [List.append_nil, hsettle]

/-! ## Values -/

theorem readText_spell {room : Nat} {d : Datum} (h : Fits schema room .text d) (level : Nat)
    (rest : List Char) :
    readShape schema room .text (s.spell level (write schema .text d) ++ rest) = .ok (d, rest) := by
  rw [Fits] at h
  obtain ⟨t, rfl⟩ := h
  have htext : s.spell level (write schema .text (.text t)) ++ rest =
      '"' :: (t.toList.flatMap escapedChar ++ '"' :: rest) := by
    simp [write, Spacing.spell, stringText]
  rw [htext, readShape, readText, skipGaps_of_not_isGap rfl]
  simp only [readString_escaped, String.ofList_toList]

theorem readFlag_spell {room : Nat} {d : Datum} (h : Fits schema room .flag d) (level : Nat)
    (rest : List Char) :
    readShape schema room .flag (s.spell level (write schema .flag d) ++ rest) = .ok (d, rest) := by
  rw [Fits] at h
  obtain ⟨b, rfl⟩ := h
  rw [readShape]
  cases b <;> rfl

theorem readWord_spell {room : Nat} {d : Datum} (h : Fits schema room .word d) (level : Nat)
    {rest : List Char} (hrest : IsEnd rest) :
    readShape schema room .word (s.spell level (write schema .word d) ++ rest) = .ok (d, rest) := by
  rw [Fits] at h
  obtain ⟨n, rfl⟩ := h
  have hsmall : n.toNat < UInt32.size := n.toNat_lt
  have hnumber : readNumber false (Nat.toDigits 10 n.toNat ++ rest) =
      .ok (.natural n.toNat, rest) := by
    refine readNumber_toDigits ?_ hrest
    unfold maxWord64
    simp only [UInt32.size, UInt64.size] at hsmall ⊢
    omega
  have htext : s.spell level (write schema .word (.word n)) = Nat.toDigits 10 n.toNat := rfl
  obtain ⟨c, ds, hds, hgap, -, -⟩ := opens_toDigits n.toNat
  have hdigit : isDigit c = true := isDigit_of_mem_toDigits (by rw [hds]; exact List.mem_cons_self)
  have hminus : c ≠ '-' := by
    rintro rfl
    cases hdigit
  rw [hds, List.cons_append] at hnumber
  rw [htext, hds, readShape, readWord, List.cons_append, skipGaps_of_not_isGap hgap]
  simp only [hdigit, if_true, hnumber, settleWord, hsmall, Nat.toUInt32_eq, UInt32.ofNat_toNat]

theorem readChoice_spell {room : Nat} {names : List String} {other : Option String} {d : Datum}
    (h : Fits schema room (.choice names other) d) (level : Nat) (rest : List Char) :
    readShape schema room (.choice names other)
      (s.spell level (write schema (.choice names other) d) ++ rest) = .ok (d, rest) := by
  rw [Fits] at h
  obtain ⟨name, rfl, hname⟩ := h
  have htext : s.spell level (write schema (.choice names other) (.choice name)) ++ rest =
      '"' :: (name.toList.flatMap escapedChar ++ '"' :: rest) := by
    simp [write, Spacing.spell, stringText]
  rw [htext, readShape, skipGaps_of_not_isGap rfl]
  simp only [readName, readString_escaped, String.ofList_toList, hname]

/-- **A datum that fits its shape reads back from its text**, whatever follows that does not go on
as a number. -/
theorem readShape_spell (s : Spacing) (hschema : ∀ r, (schema r).IsSound) :
    ∀ (room : Nat) (shape : Shape ρ) (d : Datum), Fits schema room shape d →
      ∀ (level : Nat) (rest : List Char), IsEnd rest →
      readShape schema room shape (s.spell level (write schema shape d) ++ rest) =
        .ok (d, rest) := by
  intro room
  induction room with
  | zero =>
    intro shape d hfits level rest hrest
    cases shape with
    | text => exact readText_spell hfits level rest
    | flag => exact readFlag_spell hfits level rest
    | word => exact readWord_spell hfits level hrest
    | choice names other => exact readChoice_spell hfits level rest
    | list item => exact hfits.elim
    | record r => exact hfits.elim
  | succ room ih =>
    intro shape d hfits level rest hrest
    cases shape with
    | text => exact readText_spell hfits level rest
    | flag => exact readFlag_spell hfits level rest
    | word => exact readWord_spell hfits level hrest
    | choice names other => exact readChoice_spell hfits level rest
    | list item =>
      obtain ⟨ds, rfl, hds⟩ := hfits
      obtain ⟨text, htext, hitems⟩ := items_spell level rest hds
        fun d hd => ih item d (hds d hd) (level + 1)
      rw [write, htext, readShape, List.cons_append, skipGaps_of_not_isGap rfl]
      simp only [hitems]
    | record r =>
      obtain ⟨ds, rfl, hds⟩ := hfits
      obtain ⟨text, htext, hrecord⟩ := recordObject_spell (hschema r) level rest hds
        fun shape d hd => ih shape d hd (level + 1)
      rw [write, htext, readShape, List.cons_append, skipGaps_of_not_isGap rfl]
      exact hrecord

theorem readRecord_spell (s : Spacing) (hschema : ∀ r, (schema r).IsSound) {r : ρ} {d : Datum}
    (h : Fits schema depthLimit (.record r) d) :
    readRecord schema r (s.spell 0 (write schema (.record r) d)) = .ok d := by
  have hread := readShape_spell s hschema depthLimit (.record r) d h 0 [] fun c hc => by cases hc
  rw [List.append_nil] at hread
  rw [readRecord, readDocument, hread]
  rfl

theorem readRecord_pretty (hschema : ∀ r, (schema r).IsSound) {r : ρ} {d : Datum}
    (h : Fits schema depthLimit (.record r) d) :
    readRecord schema r (write schema (.record r) d).pretty = .ok d := by
  rw [pretty, ← Spacing.spell_lined]
  exact readRecord_spell .lined hschema h

theorem readRecord_compact (hschema : ∀ r, (schema r).IsSound) {r : ρ} {d : Datum}
    (h : Fits schema depthLimit (.record r) d) :
    readRecord schema r (write schema (.record r) d).compact = .ok d := by
  rw [← Spacing.spell_tight 0]
  exact readRecord_spell .tight hschema h

end Conformance.Json
