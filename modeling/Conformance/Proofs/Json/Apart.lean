import Conformance.Proofs.Json.Keys
import Conformance.Text.Split
import Mathlib.Data.List.DropRight
/-!
# Texts whose strings stand apart

Between the strings of a document there are no quotes and no backslashes, and behind a string a
comma or a colon comes before the next one (`Lexed`). All readers share the gaps: what holds
behind the gaps of a text and can be carried over one gap holds of the text (`of_skipGaps`).
-/
namespace Conformance.Json

/-- A comma or a colon comes before the next quote, if there is one. -/
def Parted (cs : List Char) : Prop :=
  ∀ front back, cs = front ++ '"' :: back → '"' ∉ front → ',' ∈ front ∨ ':' ∈ front

/-- The strings of a text stand apart: between them there are no quotes, no backslashes and no
blanks but gaps, and behind each of them comes a comma or a colon before the next. -/
inductive Lexed : List Char → Prop where
  | nil : Lexed []
  | char {c : Char} {cs : List Char} (quote : c ≠ '"') (backslash : c ≠ '\\')
      (blank : Text.isBlank c = true → isGap c = true) (rest : Lexed cs) : Lexed (c :: cs)
  | string {cs name rest : List Char} (read : readString cs = .ok (name, rest))
      (parted : Parted rest) (rest : Lexed rest) : Lexed ('"' :: cs)

/-- What may stand behind a value: no colon, and something that parts it from the next string. -/
structure EndsValue (cs : List Char) : Prop where
  parted : Parted cs
  noColon : ¬ColonNext cs

theorem Parted.cons {c : Char} {cs : List Char} (hc : c ≠ '"') (h : Parted cs) :
    Parted (c :: cs) := by
  intro front back heq hfront
  cases front with
  | nil =>
    rw [List.nil_append, List.cons.injEq] at heq
    exact absurd heq.1 hc
  | cons d front =>
    rw [List.cons_append, List.cons.injEq] at heq
    rw [List.mem_cons, not_or] at hfront
    exact (h front back heq.2 hfront.2).imp (List.mem_cons_of_mem d) (List.mem_cons_of_mem d)

theorem parted_of_comma (cs : List Char) : Parted (',' :: cs) := by
  intro front back heq hfront
  cases front with
  | nil =>
    rw [List.nil_append, List.cons.injEq] at heq
    exact absurd heq.1 (by decide)
  | cons d front =>
    rw [List.cons_append, List.cons.injEq] at heq
    rw [← heq.1]
    exact .inl List.mem_cons_self

theorem parted_of_colon (cs : List Char) : Parted (':' :: cs) := by
  intro front back heq hfront
  cases front with
  | nil =>
    rw [List.nil_append, List.cons.injEq] at heq
    exact absurd heq.1 (by decide)
  | cons d front =>
    rw [List.cons_append, List.cons.injEq] at heq
    rw [← heq.1]
    exact .inr List.mem_cons_self

theorem parted_of_not_mem {cs : List Char} (h : '"' ∉ cs) : Parted cs := by
  rintro front back rfl
  exact absurd (List.mem_append_right front List.mem_cons_self) h

/-! ## Gaps -/

theorem ne_of_isGap {c : Char} (h : isGap c = true) :
    c ≠ '"' ∧ c ≠ '\\' ∧ ∀ d, depthBehind d c = d := by
  simp only [isGap, Bool.or_eq_true, beq_iff_eq] at h
  rcases h with ((rfl | rfl) | rfl) | rfl <;> exact ⟨by decide, by decide, fun _ => rfl⟩

theorem exists_keysFrom_skipGaps (offset depth : Nat) (cs : List Char) :
    ∃ offset', keysFrom offset depth 0 cs = keysFrom offset' depth 0 (skipGaps cs) := by
  induction cs generalizing offset with
  | nil => exact ⟨offset, rfl⟩
  | cons c cs ih =>
    by_cases hc : isGap c = true
    · rw [skipGaps, List.dropWhile_cons_of_pos hc, keysFrom_char offset depth (ne_of_isGap hc).1,
        (ne_of_isGap hc).2.2]
      exact ih _
    · rw [skipGaps, List.dropWhile_cons_of_neg hc]
      exact ⟨offset, rfl⟩

theorem isBlank_of_isGap {c : Char} (h : isGap c = true) : Text.isBlank c = true := by
  simp only [isGap, Bool.or_eq_true, beq_iff_eq] at h
  rcases h with ((rfl | rfl) | rfl) | rfl <;> rfl

theorem of_skipGaps {P : List Char → Prop} {cs : List Char} (h : P (skipGaps cs))
    (hstep : ∀ c cs, isGap c = true → P cs → P (c :: cs)) : P cs := by
  induction cs with
  | nil => exact h
  | cons c cs ih =>
    by_cases hc : isGap c = true
    · rw [skipGaps, List.dropWhile_cons_of_pos hc] at h
      exact hstep c cs hc (ih h)
    · rwa [skipGaps, List.dropWhile_cons_of_neg hc] at h

theorem skipGaps_skipGaps (cs : List Char) : skipGaps (skipGaps cs) = skipGaps cs :=
  List.dropWhile_idempotent _ _

theorem Parted.of_skipGaps {cs : List Char} (h : Parted (skipGaps cs)) : Parted cs :=
  Json.of_skipGaps h fun _ _ hc hcs => hcs.cons (ne_of_isGap hc).1

theorem EndsValue.of_skipGaps {cs : List Char} (h : EndsValue (skipGaps cs)) : EndsValue cs := by
  refine ⟨h.parted.of_skipGaps, fun hcolon => h.noColon ?_⟩
  rwa [ColonNext, skipGaps_skipGaps]

/-- **Behind a string the same is next for both notions of a blank.** -/
theorem trimStart_of_lexed {cs : List Char} (h : Lexed cs) : Text.trimStart cs = skipGaps cs := by
  unfold Text.trimStart skipGaps
  induction h with
  | nil => rfl
  | @char c cs _ _ hblank _ ih =>
    by_cases hc : isGap c = true
    · rw [List.dropWhile_cons_of_pos hc, List.dropWhile_cons_of_pos (isBlank_of_isGap hc), ih]
    · rw [List.dropWhile_cons_of_neg hc, List.dropWhile_cons_of_neg fun hb => hc (hblank hb)]
  | string => rfl

end Conformance.Json
