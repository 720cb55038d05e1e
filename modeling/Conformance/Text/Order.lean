/-!
# The order of texts

Texts are sorted by their characters, which is also the order of their bytes in
UTF-8.  `le` is this order as a function; it is total, and two texts that are each
at most the other are equal.
-/
namespace Conformance.Text

def le : List Char → List Char → Bool
  | [], _ => true
  | _ :: _, [] => false
  | a :: as, b :: bs => if a = b then le as bs else a < b

theorem char_lt_or_gt {a b : Char} (h : a ≠ b) : a < b ∨ b < a := by
  by_cases hab : a ≤ b
  · by_cases hba : b ≤ a
    · exact absurd (Char.le_antisymm hab hba) h
    · exact .inl (Char.not_le.1 hba)
  · exact .inr (Char.not_le.1 hab)

theorem le_refl (a : List Char) : le a a = true := by
  induction a with
  | nil => rfl
  | cons c cs ih => simp [le, ih]

theorem le_total (a b : List Char) : (le a b || le b a) = true := by
  induction a generalizing b with
  | nil => simp [le]
  | cons c cs ih =>
    cases b with
    | nil => simp [le]
    | cons d ds =>
      by_cases h : c = d
      · simpa [le, h] using ih ds
      · simp only [le, h, Ne.symm h, if_false, Bool.or_eq_true, decide_eq_true_eq]
        exact char_lt_or_gt h

theorem le_antisymm {a b : List Char} (h₁ : le a b = true) (h₂ : le b a = true) : a = b := by
  induction a generalizing b with
  | nil => cases b with
    | nil => rfl
    | cons d ds => simp [le] at h₂
  | cons c cs ih =>
    cases b with
    | nil => simp [le] at h₁
    | cons d ds =>
      by_cases h : c = d
      · subst h
        simp only [le, if_true] at h₁ h₂
        rw [ih h₁ h₂]
      · simp only [le, h, Ne.symm h, if_false, decide_eq_true_eq] at h₁ h₂
        exact absurd h₂ (Char.lt_asymm h₁)

theorem le_trans {a b c : List Char} (h₁ : le a b = true) (h₂ : le b c = true) :
    le a c = true := by
  induction a generalizing b c with
  | nil => rfl
  | cons x xs ih =>
    cases b with
    | nil => simp [le] at h₁
    | cons y ys =>
      cases c with
      | nil => simp [le] at h₂
      | cons z zs =>
        by_cases hxy : x = y
        · subst hxy
          by_cases hxz : x = z
          · subst hxz
            simp only [le, if_true] at h₁ h₂ ⊢
            exact ih h₁ h₂
          · simpa [le, hxz] using h₂
        · by_cases hyz : y = z
          · subst hyz
            simpa [le, hxy] using h₁
          · simp only [le, hxy, hyz, if_false, decide_eq_true_eq] at h₁ h₂
            have h := Char.lt_trans h₁ h₂
            by_cases hxz : x = z
            · subst hxz
              exact absurd h (Char.lt_irrefl x)
            · simpa [le, hxz] using h

def sortedDistinct (texts : List String) : List String :=
  (texts.mergeSort fun a b => le a.toList b.toList).eraseDups

end Conformance.Text
