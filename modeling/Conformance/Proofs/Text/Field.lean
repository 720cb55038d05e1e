import Conformance.Text.Split
import Mathlib.Data.List.Basic
/-!
# Fields with separators between them

Where a field holds no separator, the first separator ends it.  So a text is read field by field
from the front, and of a field that may hold separators it is only known that it ends at one of them
(`append_sep_eq_iff`).

A separator may be a word.  Where a field does not hold the first character of the word, the text is
cut behind it (`cutAt?_append`).  Numbers in digits hold no separators.
-/
namespace Conformance.Text

variable {α : Type} {sep : α}

/-- **A field without separators ends at the first one**; another reading goes on behind it. -/
theorem append_sep_eq_iff {front other xs ys : List α} (hfront : sep ∉ front) :
    front ++ sep :: xs = other ++ sep :: ys ↔
      (other = front ∧ xs = ys) ∨
        ∃ more, other = front ++ sep :: more ∧ xs = more ++ sep :: ys := by
  constructor
  · intro h
    rcases List.append_eq_append_iff.1 h with ⟨rest, hother, hrest⟩ | ⟨rest, hend, hrest⟩
    · cases rest with
      | nil => exact .inl ⟨by rw [hother, List.append_nil], (List.cons.inj hrest).2⟩
      | cons c rest =>
        obtain ⟨rfl, hxs⟩ := List.cons.inj hrest
        exact .inr ⟨rest, hother, hxs⟩
    · cases rest with
      | nil => exact .inl ⟨by rw [hend, List.append_nil], (List.cons.inj hrest).2.symm⟩
      | cons c rest =>
        obtain ⟨rfl, -⟩ := List.cons.inj hrest
        exact absurd (by rw [hend]; simp) hfront
  · rintro (⟨rfl, rfl⟩ | ⟨more, rfl, rfl⟩)
    · rfl
    · simp

theorem append_sep_inj {front other xs ys : List α} (hfront : sep ∉ front) (hother : sep ∉ other)
    (h : front ++ sep :: xs = other ++ sep :: ys) : front = other ∧ xs = ys := by
  rcases (append_sep_eq_iff hfront).1 h with ⟨rfl, hxs⟩ | ⟨more, rfl, -⟩
  · exact ⟨rfl, hxs⟩
  · exact absurd (by simp) hother

/-! ## Words as separators -/

/-- Cuts a text at the first place of a word, and drops the word. -/
def cutAt? (word : List Char) : List Char → Option (List Char × List Char)
  | [] => none
  | c :: cs => match word.isPrefixOf? (c :: cs) with
    | some rest => some ([], rest)
    | none => (cutAt? word cs).map fun (front, rest) => (c :: front, rest)

section

variable {first : Char} {front cs : List Char} (word : List Char)

theorem isPrefixOf?_of_ne {c : Char} (hword : word.head? = some first) (h : first ≠ c)
    (cs : List Char) : word.isPrefixOf? (c :: cs) = none := by
  obtain ⟨word, rfl⟩ := List.head?_eq_some_iff.1 hword
  simp [List.isPrefixOf?, h]

theorem cutAt?_append (hword : word.head? = some first) (h : first ∉ front) (rest : List Char) :
    cutAt? word (front ++ (word ++ rest)) = some (front, rest) := by
  induction front with
  | nil =>
    have hprefix : word.isPrefixOf? (word ++ rest) = some rest :=
      List.isPrefixOf?_eq_some_iff_append_eq.2 rfl
    obtain ⟨tail, rfl⟩ := List.head?_eq_some_iff.1 hword
    rw [List.nil_append, List.cons_append, cutAt?, ← List.cons_append, hprefix]
  | cons c front ih =>
    rw [List.mem_cons, not_or] at h
    rw [List.cons_append, cutAt?, isPrefixOf?_of_ne word hword h.1, ih h.2]
    rfl

theorem cutAt?_eq_none (hword : word.head? = some first) (h : first ∉ cs) :
    cutAt? word cs = none := by
  induction cs with
  | nil => rfl
  | cons c cs ih =>
    rw [List.mem_cons, not_or] at h
    rw [cutAt?, isPrefixOf?_of_ne word hword h.1, ih h.2]
    rfl

end

/-! ## Numbers -/

theorem notMem_digits {c : Char} (h : c.isDigit = false) (n : Nat) : c ∉ (toString n).toList := by
  intro hc
  rw [Nat.toString_eq_repr, Nat.toList_repr] at hc
  rw [Nat.isDigit_of_mem_toDigits (by decide) (by decide) hc] at h
  cases h

theorem ofDigitChars_digits (n : Nat) : Nat.ofDigitChars 10 (toString n).toList 0 = n := by
  rw [Nat.toString_eq_repr, Nat.toList_repr, Nat.ofDigitChars_ten_toDigits]

end Conformance.Text
