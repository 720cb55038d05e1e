import Conformance.Path.Basic
import Conformance.Text.Order
/-!
# The order of paths

Paths are compared step by step, not character by character: the root comes first, then a dot in
front, then double dots, then names in the order of their texts.  A path is at most what goes on
behind it.  So `a/b` comes before `a-b`, whose first name is longer, though a slash comes behind a
dash.
-/
namespace Conformance.Path

def Component.rank : Component → Nat
  | .root => 0
  | .here => 1
  | .up => 2
  | .name _ => 3

def Component.le : Component → Component → Bool
  | .name m, .name n => Text.le m n
  | a, b => a.rank ≤ b.rank

def stepsLe : List Component → List Component → Bool
  | [], _ => true
  | _ :: _, [] => false
  | a :: as, b :: bs => if a = b then stepsLe as bs else a.le b

def le (p q : Path) : Bool := stepsLe p.components q.components

namespace Component

theorem le_total (a b : Component) : (a.le b || b.le a) = true := by
  cases a <;> cases b <;> simp only [le, rank] <;> first | exact Text.le_total _ _ | rfl

theorem le_antisymm {a b : Component} (h₁ : a.le b = true) (h₂ : b.le a = true) : a = b := by
  cases a <;> cases b <;> simp [le, rank] at h₁ h₂ ⊢
  exact Text.le_antisymm h₁ h₂

theorem le_trans {a b c : Component} (h₁ : a.le b = true) (h₂ : b.le c = true) :
    a.le c = true := by
  cases a <;> cases b <;> simp [le, rank] at h₁ <;> cases c <;> simp [le, rank] at h₂ ⊢
  exact Text.le_trans h₁ h₂

end Component

theorem stepsLe_total (as bs : List Component) : (stepsLe as bs || stepsLe bs as) = true := by
  induction as generalizing bs with
  | nil => simp [stepsLe]
  | cons a as ih =>
    cases bs with
    | nil => simp [stepsLe]
    | cons b bs =>
      by_cases h : a = b
      · simpa [stepsLe, h] using ih bs
      · simpa [stepsLe, h, Ne.symm h] using Component.le_total a b

theorem stepsLe_antisymm {as bs : List Component} (h₁ : stepsLe as bs = true)
    (h₂ : stepsLe bs as = true) : as = bs := by
  induction as generalizing bs with
  | nil => cases bs with
    | nil => rfl
    | cons b bs => simp [stepsLe] at h₂
  | cons a as ih =>
    cases bs with
    | nil => simp [stepsLe] at h₁
    | cons b bs =>
      by_cases h : a = b
      · subst h
        simp only [stepsLe, if_true] at h₁ h₂
        rw [ih h₁ h₂]
      · simp only [stepsLe, h, Ne.symm h, if_false] at h₁ h₂
        exact absurd (Component.le_antisymm h₁ h₂) h

theorem stepsLe_trans {as bs cs : List Component} (h₁ : stepsLe as bs = true)
    (h₂ : stepsLe bs cs = true) : stepsLe as cs = true := by
  induction as generalizing bs cs with
  | nil => rfl
  | cons a as ih =>
    cases bs with
    | nil => simp [stepsLe] at h₁
    | cons b bs =>
      cases cs with
      | nil => simp [stepsLe] at h₂
      | cons c cs =>
        by_cases hab : a = b
        · subst hab
          by_cases hac : a = c
          · subst hac
            simp only [stepsLe, if_true] at h₁ h₂ ⊢
            exact ih h₁ h₂
          · simpa [stepsLe, hac] using h₂
        · by_cases hbc : b = c
          · subst hbc
            simpa [stepsLe, hab] using h₁
          · simp only [stepsLe, hab, hbc, if_false] at h₁ h₂
            by_cases hac : a = c
            · subst hac
              exact absurd (Component.le_antisymm h₁ h₂) hab
            · simpa [stepsLe, hac] using Component.le_trans h₁ h₂

end Conformance.Path
